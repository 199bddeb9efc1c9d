import JavaSource.Text.Blank
import JavaSource.Text.Pieces

/-!
# `Package` — dotted package names

A package is identified by its dotted name; the empty name is the default package. `Package.ofDotted`
reads a name as people write it: blanks around the name and around each segment do not count, nor do
empty segments. `⟨name⟩` takes a name as it is.
-/

namespace JavaSource
open Text

/-- A package, identified by its full dotted name. -/
structure Package where
  name : String
  deriving DecidableEq, Repr, Inhabited

namespace Package

/-- The default package, which has no name. -/
def unnamed : Package := ⟨""⟩

/-- The package whose classes every compilation unit sees without an import. -/
def javaLang : Package := ⟨"java.lang"⟩

/-- The segments of a dotted name: its pieces between dots, trimmed, without the empty ones. -/
def dottedSegments (dotted : String) : List (List Char) :=
  ((pieces '.' (trim dotted.toList)).map trim).filter fun segment => !segment.isEmpty

/-- Reads a dotted name, dropping blanks around segments and empty segments. -/
def ofDotted (dotted : String) : Package :=
  ⟨String.ofList (join '.' (dottedSegments dotted))⟩

/-- The non-empty pieces of the name between dots. -/
def segments (p : Package) : List String :=
  ((pieces '.' p.name.toList).filter fun segment => !segment.isEmpty).map String.ofList

/-- The name, with blanks before it up to a width in characters. -/
def padded (p : Package) (width : Nat) : String :=
  String.ofList (List.replicate (width - p.name.length) ' ') ++ p.name

/-- Is this the default package? -/
def isDefault (p : Package) : Bool := p.name.isEmpty

/-- Is this `java.lang`? -/
def isJavaLang (p : Package) : Bool := p == javaLang

/-- Packages are ordered by name, character by character. -/
instance : Ord Package := ⟨fun p q => compare p.name q.name⟩

/-- A name in normal form is one that reading leaves alone. -/
def IsNormal (p : Package) : Prop := ofDotted p.name = p

instance (p : Package) : Decidable p.IsNormal := inferInstanceAs (Decidable (_ = _))

end Package
end JavaSource
