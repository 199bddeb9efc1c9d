import JavaSource.Fields

/-!
# `Json` — structured values for exchange

The values in which types and settings are exchanged with other programs: the JSON values, with whole
numbers told apart from all others.

A value *fits* a type when it can be read as one (`JsonForm.ofJson?`), and every value of the type has a
written form (`JsonForm.toJson`). What is written is read back, but more can be read than is written: a record
may also stand as a list of its values (`Json.record?`), and a word as the only name of an object
(`wordForm`).
-/

namespace JavaSource
open Fields

/-- A JSON value. A number that is not written as a whole number is kept as its decimal mantissa and the
    number of its decimal places. -/
inductive Json where
  | null
  | bool (b : Bool)
  | int (n : Int)
  | decimal (mantissa : Int) (places : Nat)
  | str (s : String)
  | arr (items : List Json)
  | obj (fields : List (String × Json))
  deriving Repr, Inhabited

namespace Json

def asString? : Json → Option String
  | .str s => some s
  | _ => none

def asBool? : Json → Option Bool
  | .bool b => some b
  | _ => none

def asArray? : Json → Option (List Json)
  | .arr items => some items
  | _ => none

/-- A whole number of 64 bits without sign. -/
def asWord? : Json → Option Nat
  | .int n => if 0 ≤ n ∧ n < 18446744073709551616 then some n.toNat else none
  | _ => none

/-- Is this the null value? -/
def isNull : Json → Bool
  | .null => true
  | _ => false

/-- A record: an object, or the list of the values of its fields. -/
def record? : Json → Option (Record Json)
  | .obj fields => some (.named fields)
  | .arr items => some (.listed items)
  | _ => none

/-- The named values of a record. -/
def fields? (names : Names) (v : Json) : Option (List (String × Json)) := v.record?.bind (Record.fields? names)

/-- An object with all names, in order, is read as it stands. -/
theorem fields?_obj {names : Names} {fields : List (String × Json)} (hnodup : names.order.Nodup)
    (h : fields.map Prod.fst = names.order) : (obj fields).fields? names = some fields :=
  Record.fields?_named hnodup h

/-- The null value for nothing. -/
def ofOption {α : Type} (f : α → Json) : Option α → Json
  | none => .null
  | some a => f a

/-- A field that may be missing or null. -/
def nullable {α : Type} (fields : List (String × Json)) (name : String) (read : Json → Option α) :
    Option (Option α) :=
  Fields.nullableBy Json.isNull fields name read

/-- A list, all of whose items have to fit. -/
def readList {α : Type} (read : Json → Option α) : Json → Option (List α)
  | .arr items => items.mapM read
  | _ => none

/-- Induction over values: a statement holds of every value if it holds of a list whenever it holds of the
    items, and of an object whenever it holds of the fields. -/
@[elab_as_elim]
theorem induct {motive : Json → Prop}
    (null : motive .null)
    (bool : ∀ b, motive (.bool b))
    (int : ∀ n, motive (.int n))
    (decimal : ∀ mantissa places, motive (.decimal mantissa places))
    (str : ∀ s, motive (.str s))
    (arr : ∀ items, (∀ v ∈ items, motive v) → motive (.arr items))
    (obj : ∀ fields, (∀ field ∈ fields, motive field.2) → motive (.obj fields))
    (v : Json) : motive v :=
  @Json.rec
    motive
    (fun items => ∀ v ∈ items, motive v)
    (fun fields => ∀ field ∈ fields, motive field.2)
    (fun field => motive field.2)
    null bool int decimal str arr obj
    (fun _ h => nomatch h)
    (fun _ _ hv hitems => List.forall_mem_cons.mpr ⟨hv, hitems⟩)
    (fun _ h => nomatch h)
    (fun _ _ hfield hfields => List.forall_mem_cons.mpr ⟨hfield, hfields⟩)
    (fun _ _ h => h)
    v

end Json

/-- Types with a written form as JSON. -/
class JsonForm (α : Type) where
  toJson : α → Json
  ofJson? : Json → Option α

export JsonForm (toJson ofJson?)

/-- Where a value stands: on its own, or inside a type, whose parts are put aside until its shape is known and
    are then read less strictly. -/
inductive Position where
  | alone
  | inside
  deriving DecidableEq, Repr

/-- Does a value say nothing more than that it is there? An empty object does inside a type. -/
def Position.isUnit : Position → Json → Bool
  | _, .null => true
  | .inside, .obj [] => true
  | _, _ => false

/-- A word from a fixed list: a string, or the one name in an object, with a value that says nothing more. -/
def wordForm {α : Type} (all : List α) (word : α → String) (position : Position) : Json → Option α
  | .str s => all.find? fun a => word a == s
  | .obj [(s, v)] => if position.isUnit v then all.find? fun a => word a == s else none
  | _ => none

end JavaSource
