import JavaSource.Descriptor
import JavaSource.Proofs.Emission.Spelling
import JavaSource.Proofs.JavaType.Normal
import JavaSource.Proofs.Package.NormalForm

/-!
# `Proofs.Package.QualifiedName` — a class is read back from its qualified name

`ClassRef.fullName` writes package and simple name, and `Descriptor.ofQualifiedName` reads such a text: it trims
it, cuts it at the last dot, and takes what stands behind the last dollar sign. Blanks around the text and
the names of enclosing classes are lost on the way, and nothing else
(`ClassRef.IsReadable.ofDescriptor_ofQualifiedName`).

## Contents
- **Texts.** `EndsIn`: what stands behind the last separator of a text survives trimming.
- **Reading.** One equation for a text with a dot (`Descriptor.ofQualifiedName_append`), one for a text
  without (`Descriptor.ofQualifiedName_of_not_mem`).
- **Round trip.** A class is read back from its binary name (`ClassRef.IsReadable.ofDescriptor_binaryName`).
-/

namespace JavaSource

namespace Text

/-! ## Texts that end in a given piece -/

variable {sep : Char} {last cs : List Char}

/-- A text ends in a piece: it is that piece, or the piece stands behind a separator. -/
inductive EndsIn (sep : Char) (last : List Char) : List Char → Prop where
  | alone : EndsIn sep last last
  | behind (before : List Char) : EndsIn sep last (before ++ sep :: last)

theorem EndsIn.afterLast_eq (h : EndsIn sep last cs) (hlast : sep ∉ last) : afterLast sep cs = last := by
  unfold afterLast
  cases h with
  | alone => rw [splitLast_eq_none hlast]
  | behind before => rw [splitLast_append before hlast]

/-- Trimming at the end keeps a trimmed last piece. -/
theorem EndsIn.dropTrailing (h : EndsIn sep last cs) (hsep : isBlank sep = false) (hlast : trim last = last) :
    EndsIn sep last (Text.dropTrailing isBlank cs) := by
  have hkept : Text.dropTrailing isBlank last = last := dropTrailing_of_trim_eq hlast
  cases h with
  | alone =>
    rw [hkept]
    exact .alone
  | behind before =>
    rw [dropTrailing_append_cons hsep, hkept]
    exact .behind before

/-- Trimming keeps a trimmed last piece, although it may take blanks from the piece before it. -/
theorem EndsIn.trim (h : EndsIn sep last cs) (hsep : isBlank sep = false) (hlast : Text.trim last = last) :
    EndsIn sep last (Text.trim cs) := by
  cases h with
  | alone =>
    rw [hlast]
    exact .alone
  | behind before =>
    rw [trim_append_cons hsep, dropTrailing_of_trim_eq hlast]
    exact .behind _

theorem endsIn_join (sep : Char) (parts : List (List Char)) (last : List Char) :
    EndsIn sep last (join sep (parts ++ [last])) := by
  by_cases hnil : parts = []
  · rw [hnil]
    exact .alone
  · rw [join_append_singleton hnil]
    exact .behind _

end Text

open Text

/-! ## Reading a qualified name -/

namespace Descriptor

variable {s front back : String} {package binaryName : List Char}

/-- Blanks around a qualified name do not count. -/
theorem ofQualifiedName_surround (hfront : ∀ x ∈ front.toList, isBlank x = true)
    (hback : ∀ x ∈ back.toList, isBlank x = true) (s : String) :
    ofQualifiedName (front ++ s ++ back) = ofQualifiedName s := by
  unfold ofQualifiedName
  rw [String.toList_append, String.toList_append, trim_surround hfront hback]

/-- A text without a dot is a binary name, of a class of no package. -/
theorem ofQualifiedName_of_not_mem (h : '.' ∉ s.toList) :
    ofQualifiedName s = { package := none, name := String.ofList (afterLast '$' (trim s.toList)) } := by
  have hsplit : splitLast '.' (trim s.toList) = none :=
    splitLast_eq_none fun hmem => h (mem_of_mem_trim hmem)
  unfold ofQualifiedName
  simp only [hsplit]

/-- In a text with a dot the binary name stands behind the last one. -/
theorem ofQualifiedName_append (hs : s.toList = package ++ '.' :: binaryName) (h : '.' ∉ binaryName) :
    ofQualifiedName s =
      { package := some (String.ofList (package.dropWhile isBlank))
        name := String.ofList (afterLast '$' (dropTrailing isBlank binaryName)) } := by
  have hkept : '.' ∉ dropTrailing isBlank binaryName := by
    obtain ⟨tail, happ, -⟩ := exists_dropTrailing_append isBlank binaryName
    intro hmem
    exact h (happ ▸ List.mem_append_left tail hmem)
  have hsplit : splitLast '.' (trim s.toList)
      = some (package.dropWhile isBlank, dropTrailing isBlank binaryName) := by
    rw [hs, trim_append_cons (by decide), splitLast_append _ hkept]
  unfold ofQualifiedName
  simp only [hsplit]

end Descriptor

/-- Blanks in front of a dotted name do not count. -/
theorem Package.ofDotted_dropWhile (cs : List Char) :
    ofDotted (String.ofList (cs.dropWhile isBlank)) = ofDotted (String.ofList cs) := by
  unfold ofDotted
  rw [dottedSegments_eq, dottedSegments_eq, String.toList_ofList, String.toList_ofList,
    map_trim_pieces_dropWhile]

namespace ClassRef

variable {c d : ClassRef} {outer : List String}

/-! ## Round trip -/

/-- What a class has to be like for its qualified name to lead back to it: the package is in normal form, and
    the simple name is trimmed and holds neither a dot nor a dollar sign. -/
structure IsReadable (c : ClassRef) : Prop where
  package_ne_none : c.package ≠ none
  normal : c.IsNormal
  trimmed : trim c.name.toList = c.name.toList
  no_dot : '.' ∉ c.name.toList
  no_dollar : '$' ∉ c.name.toList

/-- The name of a nested class as tools print it: the names of the classes around it, the outermost first, and
    its own, with dollar signs between them. -/
def nestedName (outer : List String) (name : String) : String := joinWith "$" (outer ++ [name])

/-- The qualified name of a class that is nested in others. -/
def binaryName (c : ClassRef) (outer : List String) : String :=
  { c with name := nestedName outer c.name }.fullName

/-- A class that is not nested has its full name for a binary name. -/
theorem binaryName_nil (c : ClassRef) : c.binaryName [] = c.fullName := rfl

theorem toList_nestedName (outer : List String) (name : String) :
    (nestedName outer name).toList = join '$' (outer.map String.toList ++ [name.toList]) := by
  have hsep : "$".toList = ['$'] := rfl
  unfold nestedName
  rw [toList_joinWith hsep, List.map_append, List.map_singleton]

theorem endsIn_nestedName (outer : List String) (name : String) :
    EndsIn '$' name.toList (nestedName outer name).toList := by
  rw [toList_nestedName]
  exact endsIn_join '$' _ _

/-- The name of a nested class has no dot if none of the names has. -/
theorem dot_not_mem_nestedName {name : String} (houter : ∀ o ∈ outer, '.' ∉ o.toList)
    (hname : '.' ∉ name.toList) : '.' ∉ (nestedName outer name).toList := by
  rw [toList_nestedName]
  refine not_mem_join (by decide) ?_
  rw [List.forall_mem_append, List.forall_mem_map, List.forall_mem_singleton]
  exact ⟨houter, hname⟩

/-- **A class is read back from its binary name**, as a class without flags. -/
theorem IsReadable.ofDescriptor_binaryName (hc : c.IsReadable) (houter : ∀ o ∈ outer, '.' ∉ o.toList) :
    ofDescriptor (.ofQualifiedName (c.binaryName outer)) = c.bare := by
  have hends := endsIn_nestedName outer c.name
  have hdot := dot_not_mem_nestedName houter hc.no_dot
  have hdollar : isBlank '$' = false := by decide
  by_cases hnamed : c.InNamedPackage
  · obtain ⟨p, hp, hd⟩ := hnamed
    have hfull : (c.binaryName outer).toList
        = p.name.toList ++ '.' :: (nestedName outer c.name).toList := toList_fullName hp hd
    have hread := (hends.dropTrailing hdollar hc.trimmed).afterLast_eq hc.no_dollar
    have hnormal : Package.ofDotted p.name = p := hc.normal p hp
    rw [Descriptor.ofQualifiedName_append hfull hdot, hread, String.ofList_toList]
    unfold bare ofDescriptor
    rw [hp, Option.map_some, Option.getD_some, Package.ofDotted_dropWhile, String.ofList_toList,
      hnormal]
    rfl
  · -- without a package it is the outermost name that may lose blanks
    have hfull : c.binaryName outer = nestedName outer c.name := fullName_of_not_inNamedPackage hnamed
    have hread := (hends.trim hdollar hc.trimmed).afterLast_eq hc.no_dollar
    rw [hfull, Descriptor.ofQualifiedName_of_not_mem hdot, hread, String.ofList_toList]
    unfold bare
    rw [package_eq_unnamed hc.package_ne_none hnamed]
    rfl

/-- Full names tell readable classes apart, also those of the default package. -/
theorem IsReadable.same_of_fullName_eq (hc : c.IsReadable) (hd : d.IsReadable)
    (h : c.fullName = d.fullName) : c.Same d := by
  have hcread := hc.ofDescriptor_binaryName (List.forall_mem_nil _)
  have hdread := hd.ofDescriptor_binaryName (List.forall_mem_nil _)
  rw [binaryName_nil] at hcread hdread
  rw [h, hdread] at hcread
  exact same_iff_bare_eq.mpr hcread.symm

/-- **Qualified names lead back to their classes.** The full name of a readable class is read as that class,
    and so is its binary name, whatever classes it is nested in, with any blanks around it. -/
theorem IsReadable.ofDescriptor_ofQualifiedName (hc : c.IsReadable) :
    (ofDescriptor (.ofQualifiedName c.fullName)).Same c
    ∧ ∀ (outer : List String) (front back : String), (∀ o ∈ outer, '.' ∉ o.toList) →
      (∀ x ∈ front.toList, isBlank x = true) → (∀ x ∈ back.toList, isBlank x = true) →
        (ofDescriptor (.ofQualifiedName (front ++ c.binaryName outer ++ back))).Same c := by
  constructor
  · rw [← c.binaryName_nil, hc.ofDescriptor_binaryName (List.forall_mem_nil _)]
    exact ⟨rfl, rfl⟩
  · intro outer front back houter hfront hback
    rw [Descriptor.ofQualifiedName_surround hfront hback, hc.ofDescriptor_binaryName houter]
    exact ⟨rfl, rfl⟩

/-- The class `java.util.Map.Entry` as tools name it. -/
theorem entry_ofDescriptor_ofQualifiedName :
    (ofDescriptor (.ofQualifiedName "\t java.util.Map$Entry\n")).Same (.ofPackage ⟨"java.util"⟩ "Entry") := by
  have hentry : IsReadable (.ofPackage ⟨"java.util"⟩ "Entry") :=
    { package_ne_none := Option.some_ne_none _
      normal := by decide
      trimmed := by decide
      no_dot := by decide
      no_dollar := by decide }
  have hfront : ∀ x ∈ "\t ".toList, isBlank x = true := List.all_eq_true.mp (by decide)
  have hback : ∀ x ∈ "\n".toList, isBlank x = true := List.all_eq_true.mp (by decide)
  exact hentry.ofDescriptor_ofQualifiedName.2 ["Map"] "\t " "\n" (by decide) hfront hback

end ClassRef
end JavaSource
