import JavaSource.Descriptor
import JavaSource.Json.Basic

/-!
# `Json.TypeForm` — the written form of types

A class reference, an annotation, a type variable and so on are objects with their parts as fields; a
type is an object whose field `type` says which shape it has, next to the fields of that shape. Each can be
read from the list of these values as well, in the order of `fieldNames`. Fields that are not known are passed
over when an object is read, and known ones must not be there twice; `JavaType.decode?` reads a type, and
`JavaType.decodeInside?` one that stands inside another. A package is a string, and it is read as a
dotted name; so whatever is read has its packages in normal form.
-/

namespace JavaSource
open Json Fields

/-! ## Words -/

/-- Reads the kind of a class. -/
def ClassKind.read? : Position → Json → Option ClassKind := wordForm [.ordinary, .interface] ClassKind.keyword

instance : JsonForm ClassKind where
  toJson k := .str k.keyword
  ofJson? := ClassKind.read? .alone

/-- Reads a primitive type. -/
def Primitive.read? : Position → Json → Option Primitive := wordForm Primitive.all Primitive.keyword

instance : JsonForm Primitive where
  toJson p := .str p.keyword
  ofJson? := Primitive.read? .alone

/-- The word for an access modifier; here access within the package has one. -/
def Access.word : Access → String
  | .packageAccess => "package_private"
  | a => a.keyword

instance : JsonForm Access where
  toJson a := .str a.word
  ofJson? := wordForm [.publicAccess, .protectedAccess, .packageAccess, .privateAccess] Access.word .alone

instance : JsonForm Package where
  toJson p := .str p.name
  ofJson? v := v.asString?.map Package.ofDotted

/-! ## Class references, annotations, descriptors -/

/-- The fields of a class reference. -/
def ClassRef.jsonFields (c : ClassRef) : List (String × Json) :=
  [("package", ofOption toJson c.package), ("name", .str c.name), ("kind", toJson c.kind),
    ("array", .bool c.isArray)]

def ClassRef.fieldNames : Names := { needed := ["package", "name"], more := ["kind", "array"] }

/-- Reads a class reference from its fields. An object may do without a package. -/
def ClassRef.ofFields? (position : Position) (fields : List (String × Json)) : Option ClassRef := do
  let package ← nullable fields "package" ofJson?
  let name ← required fields "name" asString?
  let kind ← defaulted fields "kind" .ordinary (ClassKind.read? position)
  let isArray ← defaulted fields "array" false asBool?
  pure { package, name, kind, isArray }

/-- Reads a class reference. -/
def ClassRef.read? (position : Position) (v : Json) : Option ClassRef :=
  (v.fields? ClassRef.fieldNames).bind (ClassRef.ofFields? position)

instance : JsonForm ClassRef where
  toJson c := .obj c.jsonFields
  ofJson? := ClassRef.read? .alone

/-- A list needs the package, though it may be null, and an object does not. -/
example : ofJson? (.arr [.null, .str "T"]) = some (ClassRef.unpackaged "T")
    ∧ ofJson? (.obj [("name", .str "T")]) = some (ClassRef.unpackaged "T")
    ∧ ofJson? (.arr [.str "T"]) = (none : Option ClassRef)
    ∧ ofJson? (.obj [("name", .str "T"), ("name", .str "U")]) = (none : Option ClassRef) := by
  decide

instance : JsonForm Annotation where
  toJson a := .obj [("class", toJson a.annotationClass), ("value", ofOption .str a.value)]
  ofJson? v := do
    let fields ← v.fields? { needed := ["class"], more := ["value"] }
    let annotationClass ← required fields "class" ofJson?
    let value ← nullable fields "value" asString?
    pure { annotationClass, value }

instance : JsonForm Descriptor where
  toJson d := .obj [("package", ofOption .str d.package), ("name", .str d.name),
    ("interface", .bool d.isInterface)]
  ofJson? v := do
    let fields ← v.fields? { needed := ["package", "name"], more := ["interface"] }
    let package ← nullable fields "package" asString?
    let name ← required fields "name" asString?
    let isInterface ← defaulted fields "interface" false asBool?
    pure { package, name, isInterface }

/-! ## Types -/

def TypeVariable.fieldNames : Names := { needed := ["name"], more := ["bound", "additional_bounds"] }

def Wildcard.fieldNames : Names := { more := ["upper_bounds", "lower_bounds"] }

def ParameterizedType.fieldNames : Names := { needed := ["base", "arguments"] }

/-- The shapes of types. -/
inductive TypeShape where
  | primitive
  | ofClass
  | array
  | variableDecl
  | variableRef
  | wildcard
  | parameterized
  deriving DecidableEq, Repr

namespace TypeShape

/-- The shapes in the order of their numbers, from zero on. -/
def all : List TypeShape :=
  [.primitive, .ofClass, .array, .variableDecl, .variableRef, .wildcard, .parameterized]

def word : TypeShape → String
  | .primitive => "primitive"
  | .ofClass => "class"
  | .array => "array"
  | .variableDecl => "variable"
  | .variableRef => "variable_ref"
  | .wildcard => "wildcard"
  | .parameterized => "parameterized"

/-- The shape that a tag names by its word, or inside another type by its number too. -/
def ofTag? : Position → Json → Option TypeShape
  | _, .str s => all.find? fun shape => shape.word == s
  | .inside, .int n => if 0 ≤ n then all[n.toNat]? else none
  | _, _ => none

/-- The fields of a shape behind the tag. -/
def fieldNames : TypeShape → Names
  | .primitive => { needed := ["primitive"] }
  | .ofClass => ClassRef.fieldNames
  | .array => { needed := ["element"] }
  | .variableDecl => TypeVariable.fieldNames
  | .variableRef => { needed := ["name"] }
  | .wildcard => Wildcard.fieldNames
  | .parameterized => ParameterizedType.fieldNames

/-- The fields of a type of a shape, the tag first. -/
def taggedNames (shape : TypeShape) : Names :=
  { shape.fieldNames with needed := "type" :: shape.fieldNames.needed }

theorem ofTag?_word (position : Position) (shape : TypeShape) :
    ofTag? position (.str shape.word) = some shape := by
  cases shape <;> rfl

theorem ofTag?_inside {v : Json} {shape : TypeShape} (h : ofTag? .alone v = some shape) :
    ofTag? .inside v = some shape := by
  cases v with
  | str s => exact h
  | _ => cases h

theorem nodup_taggedNames (shape : TypeShape) : shape.taggedNames.order.Nodup := by
  cases shape <;> decide

end TypeShape

namespace JavaType

/-- An object for a type of the given shape. -/
def tagged (shape : TypeShape) (fields : List (String × Json)) : Json :=
  .obj (("type", .str shape.word) :: fields)

/-- The written form of a type. -/
def encode : JavaType → Json :=
  fold {
    primitive := fun p => tagged .primitive [("primitive", toJson p)]
    ofClass := fun c => tagged .ofClass c.jsonFields
    array := fun element => tagged .array [("element", element)]
    variableDecl := fun v bound more =>
      tagged .variableDecl
        [("name", .str v.name), ("bound", ofOption id bound), ("additional_bounds", .arr more)]
    variableRef := fun name => tagged .variableRef [("name", .str name)]
    wildcard := fun upper lower =>
      tagged .wildcard
        [("upper_bounds", ofOption .arr upper), ("lower_bounds", ofOption .arr lower)]
    parameterized := fun base arguments =>
      tagged .parameterized [("base", toJson base), ("arguments", .arr arguments)] }

section encode

variable (p : Primitive) (c : ClassRef) (t : JavaType) (name : String) (bound : Option JavaType)
  (ts : List JavaType) (upper lower : Option (List JavaType))

@[simp] theorem encode_primitive :
    (primitive p).encode = tagged .primitive [("primitive", toJson p)] := rfl
@[simp] theorem encode_ofClass : (ofClass c).encode = tagged .ofClass c.jsonFields := rfl
@[simp] theorem encode_array : (array t).encode = tagged .array [("element", t.encode)] := rfl
@[simp] theorem encode_variableDecl :
    (variableDecl name bound ts).encode =
      tagged .variableDecl [("name", .str name), ("bound", ofOption encode bound),
        ("additional_bounds", .arr (ts.map encode))] := by
  cases bound <;> simp [encode, fold, ofOption]
@[simp] theorem encode_variableRef :
    (variableRef name).encode = tagged .variableRef [("name", .str name)] := rfl
@[simp] theorem encode_wildcard :
    (wildcard upper lower).encode =
      tagged .wildcard [("upper_bounds", ofOption (fun ts => .arr (ts.map encode)) upper),
        ("lower_bounds", ofOption (fun ts => .arr (ts.map encode)) lower)] := by
  cases upper <;> cases lower <;> simp [encode, fold, ofOption]
@[simp] theorem encode_parameterized :
    (parameterized c ts).encode =
      tagged .parameterized [("base", toJson c), ("arguments", .arr (ts.map encode))] := by
  simp [encode, fold]

end encode

/-- A value inside a type, with the type or the list of types that it reads as. A list may read as both. -/
structure Reading where
  value : Json
  type? : Option JavaType := none
  types? : Option (List JavaType) := none

/-- Is this the reading of null? -/
def Reading.isNull (r : Reading) : Bool := r.value.isNull

/-- Reads a type of a given shape from its fields. -/
def ofFields? (fields : List (String × Reading)) : TypeShape → Option JavaType
  | .primitive => (required fields "primitive" fun r => Primitive.read? .inside r.value).map .primitive
  | .ofClass => (ClassRef.ofFields? .inside (fields.map fun field => (field.1, field.2.value))).map .ofClass
  | .array => (required fields "element" Reading.type?).map .array
  | .variableDecl => do
    let name ← required fields "name" fun r => r.value.asString?
    let bound ← nullableBy Reading.isNull fields "bound" Reading.type?
    let more ← defaulted fields "additional_bounds" [] Reading.types?
    pure (.variableDecl name bound more)
  | .variableRef => (required fields "name" fun r => r.value.asString?).map .variableRef
  | .wildcard => do
    let upper ← nullableBy Reading.isNull fields "upper_bounds" Reading.types?
    let lower ← nullableBy Reading.isNull fields "lower_bounds" Reading.types?
    pure (.wildcard upper lower)
  | .parameterized => do
    let base ← required fields "base" fun r => ClassRef.read? .inside r.value
    let arguments ← required fields "arguments" Reading.types?
    pure (.parameterized base arguments)

/-- Reads a type from a record, whose tag says how to read the rest. -/
def ofRecord? (position : Position) (r : Record Reading) : Option JavaType := do
  let tag ← r.first? "type"
  let shape ← TypeShape.ofTag? position tag.value
  let fields ← r.fields? shape.taggedNames
  ofFields? fields shape

mutual

/-- What a value inside a type reads as. -/
def read : Json → Reading
  | .arr items =>
    { value := .arr items
      type? := ofRecord? .inside (.listed (readAll items))
      types? := (readAll items).mapM Reading.type? }
  | .obj fields => { value := .obj fields, type? := ofRecord? .inside (.named (readFields fields)) }
  | v => { value := v }
termination_by structural v => v

/-- What the items of a list read as. -/
def readAll : List Json → List Reading
  | [] => []
  | v :: vs => read v :: readAll vs
termination_by structural vs => vs

/-- What the fields of an object read as. -/
def readFields : List (String × Json) → List (String × Reading)
  | [] => []
  | (name, v) :: rest => (name, read v) :: readFields rest
termination_by structural fields => fields

end

/-- Reads a type that stands inside another one. -/
def decodeInside? (v : Json) : Option JavaType := (read v).type?

/-- Reads a type. Its shape has to be named by its word; the shapes of the types inside it may be named by
    their numbers. -/
def decode? (v : Json) : Option JavaType := v.record?.bind fun r => ofRecord? .alone (r.map read)

@[simp] theorem readAll_eq_map (vs : List Json) : readAll vs = vs.map read := by
  induction vs with
  | nil => rfl
  | cons v vs ih => simp [readAll, ih]

@[simp] theorem readFields_eq_map (fields : List (String × Json)) :
    readFields fields = fields.map fun field => (field.1, read field.2) := by
  induction fields with
  | nil => rfl
  | cons field rest ih => simp [readFields, ih]

@[simp] theorem value_read (v : Json) : (read v).value = v := by cases v <;> rfl

/-- Inside a type, a type is read from a record like one on its own. -/
theorem decodeInside?_eq (v : Json) :
    decodeInside? v = v.record?.bind fun r => ofRecord? .inside (r.map read) := by
  unfold decodeInside?
  cases v with
  | arr items => simp [read, record?, Record.map]
  | obj fields => simp [read, record?, Record.map]
  | _ => rfl

@[simp] theorem types?_read_arr (items : List Json) :
    (read (.arr items)).types? = items.mapM decodeInside? := by
  simp only [read, readAll_eq_map, List.mapM_map]
  rfl

/-- A tag is read first, and says how to read the fields, all of which are written in their order. -/
theorem decode?_tagged {shape : TypeShape} {fields : List (String × Json)}
    (h : fields.map Prod.fst = shape.fieldNames.order) :
    decode? (tagged shape fields) =
      ofFields? (("type", read (.str shape.word)) :: fields.map fun field => (field.1, read field.2)) shape := by
  let all : List (String × Reading) :=
    ("type", read (.str shape.word)) :: fields.map fun field => (field.1, read field.2)
  have hnames : all.map Prod.fst = shape.taggedNames.order := by
    rw [List.map_cons, List.map_map]
    exact congrArg (List.cons "type") h
  show ((TypeShape.ofTag? .alone (.str shape.word)).bind fun shape =>
    ((Record.named all).fields? shape.taggedNames).bind fun fields => ofFields? fields shape) = ofFields? all shape
  rw [TypeShape.ofTag?_word, Option.bind_some, Record.fields?_named shape.nodup_taggedNames hnames,
    Option.bind_some]

/-- A type that can be read on its own reads the same inside another one. -/
theorem decodeInside?_of_decode? {v : Json} {t : JavaType} (h : decode? v = some t) :
    decodeInside? v = some t := by
  rw [decodeInside?_eq]
  obtain ⟨r, hr, h⟩ := Option.bind_eq_some_iff.mp h
  obtain ⟨tag, htag, h⟩ := Option.bind_eq_some_iff.mp h
  obtain ⟨shape, hshape, h⟩ := Option.bind_eq_some_iff.mp h
  rw [hr, Option.bind_some]
  unfold ofRecord?
  rw [htag, Option.bind_eq_bind, Option.bind_some, TypeShape.ofTag?_inside hshape]
  exact h

end JavaType

instance : JsonForm JavaType where
  toJson := JavaType.encode
  ofJson? := JavaType.decode?

instance : JsonForm TypeVariable where
  toJson v := .obj [("name", .str v.name), ("bound", ofOption toJson v.bound),
    ("additional_bounds", .arr (v.moreBounds.map toJson))]
  ofJson? v := do
    let fields ← v.fields? TypeVariable.fieldNames
    let name ← required fields "name" asString?
    let bound ← nullable fields "bound" ofJson?
    let moreBounds ← defaulted fields "additional_bounds" [] (readList ofJson?)
    pure { name, bound, moreBounds }

instance : JsonForm Wildcard where
  toJson w := .obj [("upper_bounds", ofOption (fun ts => .arr (ts.map toJson)) w.upper),
    ("lower_bounds", ofOption (fun ts => .arr (ts.map toJson)) w.lower)]
  ofJson? v := do
    let fields ← v.fields? Wildcard.fieldNames
    let upper ← nullable fields "upper_bounds" (readList ofJson?)
    let lower ← nullable fields "lower_bounds" (readList ofJson?)
    pure { upper, lower }

instance : JsonForm ParameterizedType where
  toJson p := .obj [("base", toJson p.base), ("arguments", .arr (p.arguments.map toJson))]
  ofJson? v := do
    let fields ← v.fields? ParameterizedType.fieldNames
    let base ← required fields "base" ofJson?
    let arguments ← required fields "arguments" (readList ofJson?)
    pure { base, arguments }

end JavaSource
