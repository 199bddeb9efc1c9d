import JavaSource.Toml.Value

/-!
# `Toml.Table` — tables while a document is read

A finished table is just a list of entries. While a document is read, each table also knows how it came
about, since that decides who may still add to it: a table is *implicit* while no header has named it, and
*dotted* when a dotted key on the left of an equals sign has made it. Adding an entry by a dotted key goes
through implicit tables only; a header goes through all, but may name only a table that is implicit and not
dotted.
-/

namespace JavaSource
namespace Toml

/-- What a key leads to while a document is read: a finished value, a table that may still grow, or the
    tables of an array of tables, the latest apart. -/
inductive Node where
  | value (v : Value)
  | table (isImplicit isDotted : Bool) (entries : List (String × Node))
  | tables (earlier : List (List (String × Node))) (latest : List (String × Node))

/-- A table while a document is read. -/
structure Table where
  isImplicit : Bool := false
  isDotted : Bool := false
  entries : List (String × Node) := []

/-- Replaces the first value of a name in a list of entries, or adds it at the end. -/
def putEntry {α : Type} (name : String) (a : α) : List (String × α) → List (String × α)
  | [] => [(name, a)]
  | (key, b) :: rest => if key == name then (name, a) :: rest else (key, b) :: putEntry name a rest

/-- Removes the first value of a name from a list of entries. -/
def dropEntry {α : Type} (name : String) : List (String × α) → List (String × α)
  | [] => []
  | (key, b) :: rest => if key == name then rest else (key, b) :: dropEntry name rest

namespace Table

def get? (t : Table) (name : String) : Option Node := t.entries.lookup name

def put (t : Table) (name : String) (n : Node) : Table := { t with entries := putEntry name n t.entries }

def drop (t : Table) (name : String) : Table := { t with entries := dropEntry name t.entries }

def toNode (t : Table) : Node := .table t.isImplicit t.isDotted t.entries

/-- Changes the table that a path leads to, and gives what the change gives. Tables on the way that are
    not there are made, and are implicit. With `dotted`, as for the path of a dotted key, they are also
    dotted, and the way must not go through a table that a header has named. -/
def modifyAt {α : Type} (dotted : Bool) (change : Table → Option (Table × α)) :
    List String → Table → Option (Table × α)
  | [], t => change t
  | name :: path, t =>
    match t.get? name with
    | none =>
      (modifyAt dotted change path { isImplicit := true, isDotted := dotted }).map fun (made, a) =>
        (t.put name made.toNode, a)
    | some (.value _) => none
    | some (.table isImplicit isDotted entries) =>
      if dotted && !isImplicit then none
      else
        (modifyAt dotted change path { isImplicit, isDotted, entries }).map fun (changed, a) =>
          (t.put name changed.toNode, a)
    | some (.tables earlier latest) =>
      (modifyAt dotted change path { entries := latest }).map fun (changed, a) =>
        (t.put name (.tables earlier changed.entries), a)

/-- Adds an entry under a dotted key: `path` and then `name`. The name must be new, and the table it goes
    into must be dotted exactly if the path is not empty. -/
def assign (t : Table) (path : List String) (name : String) (v : Value) : Option Table :=
  (modifyAt true
    (fun u =>
      if u.isDotted == path.isEmpty || (u.get? name).isSome then none
      else some (u.put name (.value v), ()))
    path t).map Prod.fst

end Table

/-! ## Finished values -/

mutual

/-- The finished value of a node. -/
def Node.toValue : Node → Value
  | .value v => v
  | .table _ _ entries => .table (entryValues entries)
  | .tables earlier latest => .array (tableValues earlier ++ [.table (entryValues latest)])
termination_by structural n => n

/-- The finished values of the entries of a table. -/
def entryValues : List (String × Node) → List (String × Value)
  | [] => []
  | (name, n) :: rest => (name, n.toValue) :: entryValues rest
termination_by structural entries => entries

/-- The finished values of the tables of an array of tables. -/
def tableValues : List (List (String × Node)) → List Value
  | [] => []
  | entries :: rest => .table (entryValues entries) :: tableValues rest
termination_by structural tables => tables

end

/-- The finished entries of a table. -/
def Table.toEntries (t : Table) : List (String × Value) := entryValues t.entries

end Toml
end JavaSource
