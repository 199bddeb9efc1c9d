import JavaSource.Proofs.Package.NormalForm

/-!
# `Proofs.Package.Canonical` — reading a dotted name is canonical

What a dotted name says is the list of its pieces, trimmed and without the empty ones (`trimmedPieces`).
Reading it keeps exactly that: the segments of the package are that list (`segments_ofDotted`), and two names
are read as the same package exactly if they say the same (`ofDotted_eq_iff`).
-/

namespace JavaSource
namespace Package
open Text

variable {s t : String}

/-- The pieces of a dotted name between its dots, each trimmed, without the empty ones. -/
def trimmedPieces (dotted : String) : List String :=
  ((pieces '.' dotted.toList).map fun piece => trimmed (String.ofList piece)).filter fun piece => piece ≠ ""

/-- Reading keeps the trimmed pieces of a name. -/
theorem map_ofList_dottedSegments (s : String) :
    (dottedSegments s).map String.ofList = trimmedPieces s := by
  have hkept : (fun cs : List Char => !cs.isEmpty)
      = (fun piece : String => decide (piece ≠ "")) ∘ String.ofList := by
    funext cs
    have hempty : String.ofList cs ≠ String.ofList [] ↔ cs ≠ [] := not_congr String.ofList_inj
    rw [Function.comp_apply, Bool.eq_iff_iff, decide_eq_true_iff, ← String.ofList_nil, hempty, Bool.not_eq_true',
      List.isEmpty_eq_false_iff]
  have htrim : (fun piece : List Char => trimmed (String.ofList piece)) = String.ofList ∘ trim := by
    funext piece
    unfold trimmed
    rw [String.toList_ofList]
    rfl
  unfold trimmedPieces
  rw [dottedSegments_eq, hkept, htrim, ← List.map_map, ← List.filter_map]

/-- **The segments of a package that was read** are the trimmed pieces of the name. -/
theorem segments_ofDotted (s : String) : (ofDotted s).segments = trimmedPieces s := by
  have hread : dottedSegments (ofDotted s).name = dottedSegments s :=
    dottedSegments_join fun _ => isSegment_of_mem_dottedSegments
  rw [(isNormal_ofDotted s).segments_eq, hread, map_ofList_dottedSegments]

/-- **Names are read as one package exactly if they have the same trimmed pieces.** -/
theorem ofDotted_eq_iff : ofDotted s = ofDotted t ↔ trimmedPieces s = trimmedPieces t := by
  constructor
  · intro h
    rw [← segments_ofDotted, ← segments_ofDotted, h]
  · intro h
    rw [← segments_ofDotted, ← segments_ofDotted] at h
    exact (isNormal_ofDotted s).eq_of_segments_eq (isNormal_ofDotted t) h

/-- A dot parts the pieces before it from those after it. -/
theorem trimmedPieces_append_dot (s t : String) :
    trimmedPieces (s ++ "." ++ t) = trimmedPieces s ++ trimmedPieces t := by
  have hlist : (s ++ "." ++ t).toList = s.toList ++ '.' :: t.toList := toList_append_sep rfl s t
  unfold trimmedPieces
  rw [hlist, pieces_append_sep, List.map_append, List.filter_append]

/-- A name without a piece that is more than blanks is read as the default package. -/
theorem isDefault_ofDotted_iff : (ofDotted s).isDefault = true ↔ trimmedPieces s = [] := by
  have hnothing : trimmedPieces "" = [] := rfl
  rw [← hnothing, ← ofDotted_eq_iff]
  unfold isDefault
  rw [String.isEmpty_iff]
  constructor
  · intro h
    exact congrArg Package.mk h
  · intro h
    rw [h]
    rfl

/-- **Reading a dotted name is canonical.** The segments of the package are the trimmed pieces of the name, what
    was read is read as itself, names with the same pieces are one package, a dot between two names puts their
    pieces one behind the other, and the default package is the one without any. -/
theorem ofDotted_canonical (s t : String) :
    (ofDotted s).segments = trimmedPieces s
    ∧ ofDotted (ofDotted s).name = ofDotted s
    ∧ (ofDotted s = ofDotted t ↔ trimmedPieces s = trimmedPieces t)
    ∧ (ofDotted (s ++ "." ++ t)).segments = trimmedPieces s ++ trimmedPieces t
    ∧ ((ofDotted s).isDefault = true ↔ trimmedPieces s = []) := by
  refine ⟨segments_ofDotted s, isNormal_ofDotted s, ofDotted_eq_iff, ?_, isDefault_ofDotted_iff⟩
  rw [segments_ofDotted, trimmedPieces_append_dot]

/-- Blanks and empty pieces do not count. -/
example : (ofDotted " com. . acme .\ttools.").segments = ["com", "acme", "tools"] := by decide

end Package
end JavaSource
