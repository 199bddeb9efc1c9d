import JavaSource.Emission.Emitter

/-!
# `Emission.FileTree` — writing units below a root directory

A file tree is a root directory with directories and files below it, each at a path of names. Making a
directory makes those above it, and fails where a file is in the way; writing a file replaces an older one
and fails at a directory. `Emitter.writeUnitBelow` puts the text of a unit where its package and name say,
below a directory of the tree.
-/

namespace JavaSource

/-- A path below the root: the names from the root downwards. -/
abbrev Path := List String

/-- What a path leads to. -/
inductive Entry where
  | directory
  | file (text : String)
  deriving DecidableEq, Repr

/-- Directories and files below a root. The latest entry for a path counts. -/
structure FileTree where
  entries : List (Path × Entry) := []
  deriving DecidableEq, Repr, Inhabited

/-- A path as text, with slashes. -/
def Path.toText (p : Path) : String := Text.joinWith "/" p

namespace FileTree

/-- The tree with nothing below its root. -/
def empty : FileTree := {}

/-- What a path leads to, if anything. The empty path leads to the root. -/
def find? (t : FileTree) (p : Path) : Option Entry :=
  if p.isEmpty then some .directory else t.entries.lookup p

/-- The tree with an entry put at a path. -/
def put (t : FileTree) (p : Path) (e : Entry) : FileTree := { entries := (p, e) :: t.entries }

/-- Makes the directory `rest` below the directory `above`, with all directories in between. Nothing
    results where a file is in the way. -/
def makeDirectoriesBelow (t : FileTree) (above : Path) : Path → Option FileTree
  | [] => some t
  | name :: rest =>
    match t.find? (above ++ [name]) with
    | some (.file _) => none
    | some .directory => t.makeDirectoriesBelow (above ++ [name]) rest
    | none => (t.put (above ++ [name]) .directory).makeDirectoriesBelow (above ++ [name]) rest

/-- Makes a directory with all directories above it. -/
def makeDirectories? (t : FileTree) (p : Path) : Option FileTree := t.makeDirectoriesBelow [] p

/-- Writes a file into a directory that is there. -/
def writeFile? (t : FileTree) (p : Path) (text : String) : Option FileTree :=
  match t.find? p, t.find? p.dropLast with
  | some .directory, _ => none
  | _, some .directory => some (t.put p (.file text))
  | _, _ => none

/-- The text of the file at a path. -/
def textAt? (t : FileTree) (p : Path) : Option String :=
  match t.find? p with
  | some (.file text) => some text
  | _ => none

end FileTree

/-- Writing failed at a path. -/
inductive WriteError where
  /-- The directory of a unit could not be made. -/
  | directory (path : Path)
  /-- The file of a unit could not be written. -/
  | file (path : Path)
  deriving DecidableEq, Repr

/-- The path at which writing failed. -/
def WriteError.path : WriteError → Path
  | .directory p | .file p => p

/-- The directory that the unit of a declaration belongs in. -/
def ClassDecl.unitDirectory (d : ClassDecl) : Path := d.package.segments

/-- The file that the unit of a declaration belongs in. -/
def ClassDecl.unitPath (d : ClassDecl) : Path := d.unitDirectory ++ [d.name ++ ".java"]

namespace Emitter

/-- Writes the unit of a declaration to its file below the directory `root`. The outcome is the path of the
    file, and the tree with the file in it. -/
def writeUnitBelow (e : Emitter) (t : FileTree) (root : Path) (d : ClassDecl) :
    Except WriteError (Path × FileTree) :=
  match t.makeDirectories? (root ++ d.unitDirectory) with
  | none => .error (.directory (root ++ d.unitDirectory))
  | some made =>
    match made.writeFile? (root ++ d.unitPath) (e.emit d) with
    | none => .error (.file (root ++ d.unitPath))
    | some written => .ok (root ++ d.unitPath, written)

/-- Writes units below `root`, one after the other, each with an emitter of its own. The outcome is the paths
    of their files, and the tree afterwards; the first failure ends it. -/
def writeUnitsBelow (t : FileTree) (root : Path) :
    List (Emitter × ClassDecl) → Except WriteError (List Path × FileTree)
  | [] => .ok ([], t)
  | (e, d) :: rest => do
    let (path, written) ← e.writeUnitBelow t root d
    let (paths, final) ← writeUnitsBelow written root rest
    return (path :: paths, final)

/-- Writes the unit of a declaration to its file in a tree of output. -/
def writeUnit (e : Emitter) (t : FileTree) (d : ClassDecl) : Except WriteError FileTree :=
  (e.writeUnitBelow t [] d).map Prod.snd

/-- What writing a unit logs: the text is emitted once the directory is there. -/
def writeEvents (e : Emitter) (t : FileTree) (d : ClassDecl) : List Event :=
  match t.makeDirectories? d.unitDirectory with
  | none => []
  | some _ => [e.emitEvent d]

end Emitter
end JavaSource
