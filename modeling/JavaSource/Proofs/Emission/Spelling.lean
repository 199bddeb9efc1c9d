import JavaSource.Emission.Renderer

/-!
# `Proofs.Emission.Spelling` — simple and full names as texts

`Renderer.className` is a *spelling*, the simple name or the full one, followed by the mark of an array. This
module is about the texts alone: when a class has a plain name and is of a named package, its two spellings
differ, its full name gives the class back (`ClassRef.same_of_fullName_eq`), and the mark of an array can be
told from the spelling before it (`Renderer.spelling_append_arraySuffix_inj`). Which spelling is chosen, and
what a simple name means, is the matter of `Proofs.Emission.Scope`.
-/

namespace JavaSource
open Text

namespace ClassRef

variable {c d : ClassRef} {p : Package}

/-- The class is of a package with a name, so its full name differs from its simple one. -/
def InNamedPackage (c : ClassRef) : Prop := ∃ p, c.package = some p ∧ p.isDefault = false

instance (c : ClassRef) : Decidable c.InNamedPackage :=
  match h : c.package with
  | none => isFalse (by rintro ⟨p, hp, -⟩; rw [h] at hp; exact Option.some_ne_none p hp.symm)
  | some p =>
    decidable_of_iff (p.isDefault = false)
      ⟨fun hd => ⟨p, h, hd⟩, fun ⟨_, hp, hd⟩ => Option.some.inj (h.symm.trans hp) ▸ hd⟩

/-- The simple name holds neither a dot nor an opening bracket. -/
def HasPlainName (c : ClassRef) : Prop := '.' ∉ c.name.toList ∧ '[' ∉ c.name.toList

instance (c : ClassRef) : Decidable c.HasPlainName := inferInstanceAs (Decidable (_ ∧ _))

theorem InNamedPackage.package_ne_none (hc : c.InNamedPackage) : c.package ≠ none := by
  obtain ⟨p, hp, -⟩ := hc
  rw [hp]
  exact Option.some_ne_none p

theorem fullName_of_named (hp : c.package = some p) (hd : p.isDefault = false) :
    c.fullName = p.name ++ "." ++ c.name := by
  unfold fullName
  rw [hp]
  simp only [hd, Bool.false_eq_true, if_false]

theorem toList_fullName (hp : c.package = some p) (hd : p.isDefault = false) :
    c.fullName.toList = p.name.toList ++ '.' :: c.name.toList := by
  rw [fullName_of_named hp hd]
  exact toList_append_sep rfl p.name c.name

theorem InNamedPackage.fullName_ne_name (hc : c.InNamedPackage) : c.fullName ≠ c.name := by
  obtain ⟨p, hp, hd⟩ := hc
  intro he
  have hlen := congrArg (fun s : String => s.toList.length) he
  simp only [toList_fullName hp hd, List.length_append, List.length_cons] at hlen
  omega

/-- Outside named packages the full name is the simple one. -/
theorem fullName_of_not_inNamedPackage (hc : ¬ c.InNamedPackage) : c.fullName = c.name := by
  unfold fullName
  cases hp : c.package with
  | none => rfl
  | some p =>
    have hd : p.isDefault = true := by
      rw [← Bool.not_eq_false]
      exact fun hd => hc ⟨p, hp, hd⟩
    simp only [hd, if_true]

/-- A class with a package that has no name is of the default package. -/
theorem package_eq_unnamed (hp : c.package ≠ none) (hc : ¬ c.InNamedPackage) :
    c.package = some .unnamed := by
  obtain ⟨p, hp⟩ := Option.ne_none_iff_exists'.mp hp
  have hdefault : p.isDefault = true := by
    rw [← Bool.not_eq_false]
    exact fun hnamed => hc ⟨p, hp, hnamed⟩
  have hname : p.name = "" := String.isEmpty_iff.mp hdefault
  rw [hp]
  exact congrArg (fun name => some (Package.mk name)) hname

/-- **Full names tell classes apart**: the last dot parts the package from the simple name. -/
theorem same_of_fullName_eq (hc : c.InNamedPackage) (hd : d.InNamedPackage) (hcn : c.HasPlainName)
    (hdn : d.HasPlainName) (h : c.fullName = d.fullName) : c.Same d := by
  obtain ⟨p, hp, hpd⟩ := hc
  obtain ⟨q, hq, hqd⟩ := hd
  have hlist : p.name.toList ++ '.' :: c.name.toList = q.name.toList ++ '.' :: d.name.toList := by
    rw [← toList_fullName hp hpd, ← toList_fullName hq hqd, h]
  have hsplit := congrArg (splitLast '.') hlist
  rw [splitLast_append _ hcn.1, splitLast_append _ hdn.1] at hsplit
  obtain ⟨hpq, hname⟩ := Prod.mk.inj (Option.some.inj hsplit)
  refine ⟨String.toList_inj.mp hname, ?_⟩
  rw [hp, hq]
  exact congrArg some (congrArg Package.mk (String.toList_inj.mp hpq))

/-- A simple name without a dot is nobody's full name in a named package. -/
theorem HasPlainName.ne_fullName (hcn : c.HasPlainName) (hd : d.InNamedPackage) : c.name ≠ d.fullName := by
  obtain ⟨q, hq, hqd⟩ := hd
  intro he
  have hdot : '.' ∈ c.name.toList := by
    rw [he, toList_fullName hq hqd]
    exact List.mem_append_right _ List.mem_cons_self
  exact hcn.1 hdot

end ClassRef

namespace Renderer

variable {r : Renderer} {c d : ClassRef}

/-- The name a class is written by, without the mark of an array. -/
def spelling (r : Renderer) (c : ClassRef) : String :=
  if r.qualify && r.isHidden c then c.fullName else c.name

theorem className_eq (r : Renderer) (c : ClassRef) : r.className c = r.spelling c ++ c.arraySuffix := rfl

theorem spelling_of_isHidden (hq : r.qualify = true) (h : r.isHidden c = true) :
    r.spelling c = c.fullName := by
  unfold spelling
  rw [hq, h]
  rfl

theorem spelling_of_not_isHidden (h : r.isHidden c = false) : r.spelling c = c.name := by
  unfold spelling
  rw [h, Bool.and_false]
  rfl

theorem spelling_eq_name_or_fullName (r : Renderer) (c : ClassRef) :
    r.spelling c = c.name ∨ r.spelling c = c.fullName := by
  unfold spelling
  split
  · exact Or.inr rfl
  · exact Or.inl rfl

/-- A class of a named package is spelled by its simple name exactly if it is not hidden. -/
theorem spelling_eq_name_iff (hq : r.qualify = true) (hc : c.InNamedPackage) :
    r.spelling c = c.name ↔ r.isHidden c = false := by
  constructor
  · intro h
    rw [← Bool.not_eq_true]
    intro hh
    exact hc.fullName_ne_name ((spelling_of_isHidden hq hh).symm.trans h)
  · exact spelling_of_not_isHidden

/-- No spelling of a class with a plain name ends like an array: the last bracket could only stand in the
    simple name, and what follows the package is a dot. -/
theorem spelling_toList_ne_append_brackets (hc : c.InNamedPackage) (hn : c.HasPlainName)
    (t : List Char) : (r.spelling c).toList ≠ t ++ ['[', ']'] := by
  intro h
  rcases spelling_eq_name_or_fullName r c with hs | hs
  · rw [hs] at h
    exact hn.2 (by rw [h]; simp)
  · obtain ⟨p, hp, hd⟩ := hc
    rw [hs, ClassRef.toList_fullName hp hd] at h
    -- either the brackets begin behind the package, or the dot stands among them
    rcases List.append_eq_append_iff.mp h with ⟨a, -, ha⟩ | ⟨a, -, ha⟩
    · have hbracket : '[' ∈ '.' :: c.name.toList := by rw [ha]; simp
      rcases List.mem_cons.mp hbracket with hb | hb
      · exact absurd hb (by decide)
      · exact hn.2 hb
    · have hdot : '.' ∈ ['[', ']'] := by rw [ha]; simp
      exact absurd hdot (by decide)

/-- **The mark of an array can be told from the name before it.** -/
theorem spelling_append_arraySuffix_inj (hc : c.InNamedPackage) (hd : d.InNamedPackage)
    (hcn : c.HasPlainName) (hdn : d.HasPlainName) (h : r.className c = r.className d) :
    r.spelling c = r.spelling d ∧ c.isArray = d.isArray := by
  rw [className_eq, className_eq] at h
  unfold ClassRef.arraySuffix at h
  -- marks that differ would leave one spelling ending like an array
  cases hca : c.isArray with
  | false =>
    cases hda : d.isArray with
    | false =>
      simp only [hca, hda, Bool.false_eq_true, if_false, String.append_empty] at h
      exact ⟨h, rfl⟩
    | true =>
      simp only [hca, hda, Bool.false_eq_true, if_false, if_true, String.append_empty] at h
      have hlist := congrArg String.toList h
      rw [String.toList_append] at hlist
      exact absurd hlist (spelling_toList_ne_append_brackets hc hcn _)
  | true =>
    cases hda : d.isArray with
    | false =>
      simp only [hca, hda, Bool.false_eq_true, if_false, if_true, String.append_empty] at h
      have hlist := congrArg String.toList h.symm
      rw [String.toList_append] at hlist
      exact absurd hlist (spelling_toList_ne_append_brackets hd hdn _)
    | true =>
      simp only [hca, hda, if_true] at h
      exact ⟨(String.append_left_inj "[]").mp h, rfl⟩

end Renderer
end JavaSource
