import JavaSource.Json.TypeForm
import JavaSource.Proofs.JavaType.Normal
import JavaSource.Proofs.Package.NormalForm

/-!
# `Proofs.Json.RoundTrip` — written types read back

Writing a type as JSON loses nothing: a value *reads back* (`ReadsBack`) if reading its written form gives
the value itself, flags of class references and absent lists included. A package is normalised when it is
read, so this holds of types whose packages are in normal form (`JavaType.IsNormal.readsBack`), by induction
over the type with one lemma for each shape that has parts.

In the other direction whatever is read as a type is normal (`JavaType.isNormal_of_ofJson?`), also if it is
not in the form that is written, but a list of its values, say. Here the induction is over the value, since a
part is read before the shape of the whole is known. Together: after a first reading, writing and reading again
changes nothing.
-/

namespace JavaSource
open Json Fields

/-- **A value reads back**: its written form is read as the value itself. -/
def ReadsBack {α : Type} [JsonForm α] (a : α) : Prop := ofJson? (toJson a) = some a

section optional

variable {α : Type} [JsonForm α] {o : Option α} {as : List α}

/-- An optional item is written as null or as itself, if nothing else is written as null. -/
theorem standsFor_ofOption (hnull : ∀ a ∈ o, (toJson a).isNull = false) (h : ∀ a ∈ o, ReadsBack a) :
    StandsFor Json.isNull ofJson? (ofOption toJson o) o := by
  cases o with
  | none => rfl
  | some a => exact ⟨hnull a rfl, h a rfl⟩

theorem readList_map_toJson (h : ∀ a ∈ as, ReadsBack a) :
    readList ofJson? (.arr (as.map toJson)) = some as :=
  mapM_map_eq_some h

/-- An absent list is not the empty one. -/
theorem standsFor_ofOption_list {lists : Option (List α)} (h : ∀ as ∈ lists, ∀ a ∈ as, ReadsBack a) :
    StandsFor Json.isNull (readList ofJson?) (ofOption (fun as => .arr (as.map toJson)) lists) lists := by
  cases lists with
  | none => rfl
  | some as => exact ⟨rfl, readList_map_toJson (h as rfl)⟩

end optional

/-! ## Words, packages, classes -/

/-- A package reads back exactly if it is in normal form. -/
theorem Package.readsBack_iff {p : Package} : ReadsBack p ↔ p.IsNormal := Option.some_inj

/-- A kind is written as its word, so it reads back wherever it stands. -/
theorem ClassKind.read?_keyword (position : Position) (k : ClassKind) :
    ClassKind.read? position (.str k.keyword) = some k := by
  cases k <;> rfl

/-- A class reference is read from four fields, whatever stands beside them and wherever it stands. -/
theorem ClassRef.IsNormal.ofFields? {c : ClassRef} (h : c.IsNormal) (position : Position)
    {fields : List (String × Json)}
    (hfields : ∀ name ∈ ["package", "name", "kind", "array"],
      fields.lookup name = c.jsonFields.lookup name) : ClassRef.ofFields? position fields = some c := by
  have hpackage : nullable fields "package" ofJson? = some c.package := by
    refine nullableBy_of_lookup (hfields "package" (by decide)) (standsFor_ofOption (fun _ _ => rfl) ?_)
    intro p hp
    exact Package.readsBack_iff.mpr (h p hp)
  have hname : required fields "name" asString? = some c.name :=
    required_of_lookup (hfields "name" (by decide))
  have hkind : defaulted fields "kind" .ordinary (ClassKind.read? position) = some c.kind := by
    rw [defaulted_of_lookup (hfields "kind" (by decide))]
    exact c.kind.read?_keyword position
  have harray : defaulted fields "array" false asBool? = some c.isArray :=
    defaulted_of_lookup (hfields "array" (by decide))
  unfold ClassRef.ofFields?
  rw [hpackage, hname, hkind, harray]
  rfl

/-- **A normal class reference reads back**, on its own and inside a type. -/
theorem ClassRef.IsNormal.read? {c : ClassRef} (h : c.IsNormal) (position : Position) :
    ClassRef.read? position (toJson c) = some c := by
  have hfields : (toJson c).fields? ClassRef.fieldNames = some c.jsonFields := fields?_obj (by decide) rfl
  unfold ClassRef.read?
  rw [hfields, Option.bind_some]
  exact h.ofFields? position fun _ _ => rfl

theorem ClassRef.IsNormal.readsBack {c : ClassRef} (h : c.IsNormal) : ReadsBack c := h.read? .alone

/-- **An annotation reads back** if its class is normal; its value may be any text or none. -/
theorem Annotation.readsBack {a : Annotation} (h : a.annotationClass.IsNormal) : ReadsBack a := by
  obtain ⟨c, value⟩ := a
  have hvalue : StandsFor Json.isNull asString? (ofOption .str value) value := by
    cases value with
    | none => rfl
    | some text => exact ⟨rfl, rfl⟩
  let fields : List (String × Json) := [("class", toJson c), ("value", ofOption .str value)]
  have hfields : (Json.obj fields).fields? { needed := ["class"], more := ["value"] } = some fields :=
    fields?_obj (by decide) rfl
  show ((Json.obj fields).fields? { needed := ["class"], more := ["value"] }).bind (fun fields => do
    let annotationClass ← required fields "class" ofJson?
    let value ← nullable fields "value" asString?
    pure (⟨annotationClass, value⟩ : Annotation)) = _
  rw [hfields, Option.bind_some, required_of_lookup rfl, nullable, nullableBy_of_lookup rfl hvalue, h.readsBack]
  rfl

/-! ## Types -/

namespace JavaType

variable {t : JavaType} {c : ClassRef} {name : String} {bound : Option JavaType} {ts : List JavaType}
  {upper lower bounds : Option (List JavaType)}

/-- A type is written as an object. -/
theorem exists_encode_eq_obj (t : JavaType) : ∃ fields, t.encode = .obj fields := by
  cases t with
  | primitive p => exact ⟨_, rfl⟩
  | ofClass c => exact ⟨_, rfl⟩
  | array element => exact ⟨_, rfl⟩
  | variableDecl name bound more => exact ⟨_, encode_variableDecl name bound more⟩
  | variableRef name => exact ⟨_, rfl⟩
  | wildcard upper lower => exact ⟨_, encode_wildcard upper lower⟩
  | parameterized base arguments => exact ⟨_, encode_parameterized base arguments⟩

theorem isNull_toJson (t : JavaType) : (toJson t).isNull = false := by
  obtain ⟨fields, h⟩ := exists_encode_eq_obj t
  show t.encode.isNull = false
  rw [h]
  rfl

theorem isNull_read_encode (t : JavaType) : (read t.encode).isNull = false := by
  obtain ⟨fields, h⟩ := exists_encode_eq_obj t
  rw [h]
  rfl

/-- What reads back on its own reads back inside another type. -/
theorem decodeInside?_encode (h : ReadsBack t) : decodeInside? t.encode = some t :=
  decodeInside?_of_decode? h

theorem types?_read_map_encode (h : ∀ t ∈ ts, ReadsBack t) :
    (read (.arr (ts.map encode))).types? = some ts := by
  rw [types?_read_arr]
  exact mapM_map_eq_some fun t ht => decodeInside?_encode (h t ht)

theorem standsFor_read_bound (h : ∀ t ∈ bound, ReadsBack t) :
    StandsFor Reading.isNull Reading.type? (read (ofOption encode bound)) bound := by
  cases bound with
  | none => rfl
  | some t => exact ⟨isNull_read_encode t, decodeInside?_encode (h t rfl)⟩

theorem standsFor_read_bounds (h : ∀ ts ∈ bounds, ∀ t ∈ ts, ReadsBack t) :
    StandsFor Reading.isNull Reading.types? (read (ofOption (fun ts => .arr (ts.map encode)) bounds))
      bounds := by
  cases bounds with
  | none => rfl
  | some ts => exact ⟨rfl, types?_read_map_encode (h ts rfl)⟩

/-! ### One lemma for each shape with parts -/

theorem readsBack_ofClass (h : c.IsNormal) : ReadsBack (ofClass c) := by
  show decode? (ofClass c).encode = some (ofClass c)
  rw [encode_ofClass, decode?_tagged rfl, ofFields?, List.map_cons, List.map_map, value_read]
  have hvalues : c.jsonFields.map ((fun field => (field.1, field.2.value)) ∘ fun field => (field.1, read field.2))
      = c.jsonFields := by
    simp only [Function.comp_def, value_read, Prod.eta, List.map_id']
  rw [hvalues, h.ofFields? .inside]
  · rfl
  · -- the tag in front is none of the four fields
    intro name hname
    simp only [List.mem_cons, List.not_mem_nil, or_false] at hname
    rcases hname with rfl | rfl | rfl | rfl <;> rfl

theorem readsBack_array (h : ReadsBack t) : ReadsBack (array t) := by
  show decode? (array t).encode = some (array t)
  rw [encode_array, decode?_tagged rfl, ofFields?, required_of_lookup rfl]
  exact congrArg (Option.map array) (decodeInside?_encode h)

theorem readsBack_variableDecl (hbound : ∀ t ∈ bound, ReadsBack t) (hmore : ∀ t ∈ ts, ReadsBack t) :
    ReadsBack (variableDecl name bound ts) := by
  show decode? (variableDecl name bound ts).encode = some (variableDecl name bound ts)
  rw [encode_variableDecl, decode?_tagged rfl, ofFields?, required_of_lookup rfl,
    nullableBy_of_lookup rfl (standsFor_read_bound hbound), defaulted_of_lookup rfl,
    types?_read_map_encode hmore]
  rfl

theorem readsBack_wildcard (hupper : ∀ ts ∈ upper, ∀ t ∈ ts, ReadsBack t)
    (hlower : ∀ ts ∈ lower, ∀ t ∈ ts, ReadsBack t) : ReadsBack (wildcard upper lower) := by
  show decode? (wildcard upper lower).encode = some (wildcard upper lower)
  rw [encode_wildcard, decode?_tagged rfl, ofFields?,
    nullableBy_of_lookup rfl (standsFor_read_bounds hupper), nullableBy_of_lookup rfl (standsFor_read_bounds hlower)]
  rfl

theorem readsBack_parameterized (hbase : c.IsNormal) (h : ∀ t ∈ ts, ReadsBack t) :
    ReadsBack (parameterized c ts) := by
  show decode? (parameterized c ts).encode = some (parameterized c ts)
  rw [encode_parameterized, decode?_tagged rfl, ofFields?, required_of_lookup rfl, required_of_lookup rfl,
    types?_read_map_encode h, value_read, hbase.read? .inside]
  rfl

/-- **A normal type reads back.** -/
theorem IsNormal.readsBack (h : t.IsNormal) : ReadsBack t := by
  induction t using induct with
  | primitive p =>
    show decode? (primitive p).encode = some (primitive p)
    rw [encode_primitive, decode?_tagged rfl, ofFields?, required_of_lookup rfl, value_read]
    exact congrArg (Option.map primitive) p.ofKeyword?_keyword
  | ofClass c => exact readsBack_ofClass (isNormal_ofClass_iff.mp h)
  | array element ih => exact readsBack_array (ih (isNormal_array_iff.mp h))
  | variableDecl name bound more ihb ihm =>
    obtain ⟨hbound, hmore⟩ := isNormal_variableDecl_iff.mp h
    exact readsBack_variableDecl (fun t ht => ihb t ht (hbound t ht)) fun t ht => ihm t ht (hmore t ht)
  | variableRef name => rfl
  | wildcard upper lower ihu ihl =>
    obtain ⟨hupper, hlower⟩ := isNormal_wildcard_iff.mp h
    exact readsBack_wildcard (fun ts hts t ht => ihu ts hts t ht (hupper ts hts t ht))
      fun ts hts t ht => ihl ts hts t ht (hlower ts hts t ht)
  | parameterized base arguments ih =>
    obtain ⟨hbase, harguments⟩ := isNormal_parameterized_iff.mp h
    exact readsBack_parameterized hbase fun t ht => ih t ht (harguments t ht)

end JavaType

/-! ## The shapes that stand alone

A type variable, a wildcard or a generic class is written without a tag, and its parts are read as types that
stand on their own. -/

theorem TypeVariable.readsBack {v : TypeVariable} (h : v.toType.IsNormal) : ReadsBack v := by
  obtain ⟨name, bound, more⟩ := v
  obtain ⟨hbound, hmore⟩ := JavaType.isNormal_variableDecl_iff.mp h
  have hboundForm := standsFor_ofOption (fun t _ => t.isNull_toJson) fun t ht => (hbound t ht).readsBack
  have hmoreForm := readList_map_toJson fun t ht => (hmore t ht).readsBack
  let fields : List (String × Json) := [("name", .str name), ("bound", ofOption toJson bound),
    ("additional_bounds", .arr (more.map toJson))]
  show (do
    let name ← required fields "name" asString?
    let bound ← nullable fields "bound" ofJson?
    let moreBounds ← defaulted fields "additional_bounds" [] (readList ofJson?)
    pure (⟨name, bound, moreBounds⟩ : TypeVariable)) = _
  rw [required_of_lookup rfl, nullable, nullableBy_of_lookup rfl hboundForm, defaulted_of_lookup rfl,
    hmoreForm]
  rfl

theorem Wildcard.readsBack {w : Wildcard} (h : w.toType.IsNormal) : ReadsBack w := by
  obtain ⟨upper, lower⟩ := w
  obtain ⟨hupper, hlower⟩ := JavaType.isNormal_wildcard_iff.mp h
  have hupperForm := standsFor_ofOption_list fun ts hts t ht => (hupper ts hts t ht).readsBack
  have hlowerForm := standsFor_ofOption_list fun ts hts t ht => (hlower ts hts t ht).readsBack
  let fields : List (String × Json) := [
    ("upper_bounds", ofOption (fun ts => .arr (ts.map toJson)) upper),
    ("lower_bounds", ofOption (fun ts => .arr (ts.map toJson)) lower)]
  show (do
    let upper ← nullable fields "upper_bounds" (readList ofJson?)
    let lower ← nullable fields "lower_bounds" (readList ofJson?)
    pure (⟨upper, lower⟩ : Wildcard)) = _
  rw [nullable, nullableBy_of_lookup rfl hupperForm, nullable, nullableBy_of_lookup rfl hlowerForm]
  rfl

theorem ParameterizedType.readsBack {p : ParameterizedType} (h : p.toType.IsNormal) : ReadsBack p := by
  obtain ⟨base, arguments⟩ := p
  obtain ⟨hbase, harguments⟩ := JavaType.isNormal_parameterized_iff.mp h
  have hargumentsForm := readList_map_toJson fun t ht => (harguments t ht).readsBack
  let fields : List (String × Json) := [("base", toJson base), ("arguments", .arr (arguments.map toJson))]
  show (do
    let base ← required fields "base" ofJson?
    let arguments ← required fields "arguments" (readList ofJson?)
    pure (⟨base, arguments⟩ : ParameterizedType)) = _
  rw [required_of_lookup rfl, required_of_lookup rfl, hbase.readsBack, hargumentsForm]
  rfl

/-! ## What has been read is normal -/

theorem Package.isNormal_of_ofJson? {v : Json} {p : Package} (h : ofJson? v = some p) : p.IsNormal := by
  obtain ⟨dotted, -, rfl⟩ := Option.map_eq_some_iff.mp h
  exact isNormal_ofDotted dotted

theorem ClassRef.isNormal_of_ofFields? {position : Position} {fields : List (String × Json)} {c : ClassRef}
    (h : ClassRef.ofFields? position fields = some c) : c.IsNormal := by
  unfold ClassRef.ofFields? at h
  obtain ⟨package, hpackage, h⟩ := Option.bind_eq_some_iff.mp h
  obtain ⟨name, -, h⟩ := Option.bind_eq_some_iff.mp h
  obtain ⟨kind, -, h⟩ := Option.bind_eq_some_iff.mp h
  obtain ⟨isArray, -, h⟩ := Option.bind_eq_some_iff.mp h
  cases h
  intro p hp
  obtain ⟨v, -, hv⟩ := exists_of_nullableBy hpackage hp
  exact Package.isNormal_of_ofJson? hv

theorem ClassRef.isNormal_of_read? {position : Position} {v : Json} {c : ClassRef}
    (h : ClassRef.read? position v = some c) : c.IsNormal := by
  obtain ⟨fields, -, hc⟩ := Option.bind_eq_some_iff.mp h
  exact ClassRef.isNormal_of_ofFields? hc

namespace JavaType

/-- All that a value inside a type reads as is normal. -/
structure Reading.IsNormal (r : Reading) : Prop where
  type : ∀ t ∈ r.type?, t.IsNormal
  types : ∀ ts ∈ r.types?, ∀ t ∈ ts, t.IsNormal

variable {fields : List (String × Reading)} {shape : TypeShape} {t : JavaType}

/-- **A type is normal if the values of its fields read as normal types.** -/
theorem isNormal_of_ofFields? (hreadings : ∀ field ∈ fields, field.2.IsNormal)
    (h : ofFields? fields shape = some t) : t.IsNormal := by
  cases shape with
  | primitive =>
    obtain ⟨p, -, rfl⟩ := Option.map_eq_some_iff.mp h
    exact isNormal_primitive
  | ofClass =>
    obtain ⟨c, hc, rfl⟩ := Option.map_eq_some_iff.mp h
    exact isNormal_ofClass_iff.mpr (ClassRef.isNormal_of_ofFields? hc)
  | array =>
    obtain ⟨element, helement, rfl⟩ := Option.map_eq_some_iff.mp h
    obtain ⟨r, hr, hread⟩ := exists_of_required helement
    exact isNormal_array_iff.mpr ((hreadings _ hr).type element hread)
  | variableDecl =>
    obtain ⟨name, -, h⟩ := Option.bind_eq_some_iff.mp h
    obtain ⟨bound, hbound, h⟩ := Option.bind_eq_some_iff.mp h
    obtain ⟨more, hmore, h⟩ := Option.bind_eq_some_iff.mp h
    cases h
    refine isNormal_variableDecl_iff.mpr ⟨?_, ?_⟩
    · intro t ht
      obtain ⟨r, hr, hread⟩ := exists_of_nullableBy hbound ht
      exact (hreadings _ hr).type t hread
    · rcases exists_of_defaulted hmore with rfl | ⟨r, hr, hread⟩
      · intro t ht
        exact absurd ht List.not_mem_nil
      · exact (hreadings _ hr).types more hread
  | variableRef =>
    obtain ⟨name, -, rfl⟩ := Option.map_eq_some_iff.mp h
    exact isNormal_variableRef
  | wildcard =>
    obtain ⟨upper, hupper, h⟩ := Option.bind_eq_some_iff.mp h
    obtain ⟨lower, hlower, h⟩ := Option.bind_eq_some_iff.mp h
    cases h
    refine isNormal_wildcard_iff.mpr ⟨?_, ?_⟩
    · intro ts hts
      obtain ⟨r, hr, hread⟩ := exists_of_nullableBy hupper hts
      exact (hreadings _ hr).types ts hread
    · intro ts hts
      obtain ⟨r, hr, hread⟩ := exists_of_nullableBy hlower hts
      exact (hreadings _ hr).types ts hread
  | parameterized =>
    obtain ⟨base, hbase, h⟩ := Option.bind_eq_some_iff.mp h
    obtain ⟨arguments, harguments, h⟩ := Option.bind_eq_some_iff.mp h
    cases h
    obtain ⟨v, -, hv⟩ := exists_of_required hbase
    obtain ⟨r, hr, hread⟩ := exists_of_required harguments
    exact isNormal_parameterized_iff.mpr
      ⟨ClassRef.isNormal_of_read? hv, (hreadings _ hr).types arguments hread⟩

/-- **A record reads as a normal type** if its values do, by name or by position. -/
theorem isNormal_of_ofRecord? {position : Position} {r : Record Reading} (hvalues : ∀ v ∈ r.values, v.IsNormal)
    (h : ofRecord? position r = some t) : t.IsNormal := by
  obtain ⟨tag, -, h⟩ := Option.bind_eq_some_iff.mp h
  obtain ⟨shape, -, h⟩ := Option.bind_eq_some_iff.mp h
  obtain ⟨fields, hfields, h⟩ := Option.bind_eq_some_iff.mp h
  exact isNormal_of_ofFields? (fun field hfield => hvalues _ (Record.mem_values_of_fields? hfields hfield)) h

/-- What has been read inside a type is normal if the values of the record are. -/
theorem isNormal_of_decodeInside? {v : Json} {r : Record Json} (hr : v.record? = some r)
    (hvalues : ∀ v ∈ r.values, (read v).IsNormal) (h : decodeInside? v = some t) : t.IsNormal := by
  rw [decodeInside?_eq, hr, Option.bind_some] at h
  refine isNormal_of_ofRecord? ?_ h
  rw [Record.values_map, List.forall_mem_map]
  exact hvalues

theorem Reading.isNormal_of_none {r : Reading} (htype : r.type? = none) (htypes : r.types? = none) :
    r.IsNormal where
  type := by rw [htype]; exact fun _ ht => nomatch ht
  types := by rw [htypes]; exact fun _ hts => nomatch hts

/-- **A value inside a type reads as normal types**, whatever it is. -/
theorem isNormal_read (v : Json) : (read v).IsNormal := by
  induction v using Json.induct with
  | null => exact Reading.isNormal_of_none rfl rfl
  | bool b => exact Reading.isNormal_of_none rfl rfl
  | int n => exact Reading.isNormal_of_none rfl rfl
  | decimal mantissa places => exact Reading.isNormal_of_none rfl rfl
  | str s => exact Reading.isNormal_of_none rfl rfl
  | arr items ih =>
    -- a list is a type with its parts in order, or a list of types, or both
    constructor
    · intro t ht
      exact isNormal_of_decodeInside? (r := .listed items) rfl ih ht
    · intro ts hts t ht
      rw [types?_read_arr] at hts
      obtain ⟨v, hv, hread⟩ := exists_of_mapM_eq_some hts ht
      exact (ih v hv).type t hread
  | obj fields ih =>
    refine ⟨?_, fun _ hts => nomatch hts⟩
    intro t ht
    exact isNormal_of_decodeInside? (r := .named fields) rfl (List.forall_mem_map.mpr ih) ht

/-- **Whatever is read as a type is normal.** -/
theorem isNormal_of_ofJson? {v : Json} (h : ofJson? v = some t) : t.IsNormal :=
  (isNormal_read v).type t (decodeInside?_of_decode? h)

end JavaType

/-! ## The written forms -/

/-- **Written types read back without loss**, and so do class references, annotations, type variables,
    wildcards and generic classes, as long as their packages are in normal form. Whatever is read as a type
    has its packages in normal form, so that writing it and reading it again gives the same type. -/
theorem written_types_read_back :
    (∀ c : ClassRef, c.IsNormal → ofJson? (toJson c) = some c)
    ∧ (∀ a : Annotation, a.annotationClass.IsNormal → ofJson? (toJson a) = some a)
    ∧ (∀ v : TypeVariable, v.toType.IsNormal → ofJson? (toJson v) = some v)
    ∧ (∀ w : Wildcard, w.toType.IsNormal → ofJson? (toJson w) = some w)
    ∧ (∀ p : ParameterizedType, p.toType.IsNormal → ofJson? (toJson p) = some p)
    ∧ (∀ t : JavaType, t.IsNormal → ofJson? (toJson t) = some t)
    ∧ ∀ (v : Json) (t : JavaType), ofJson? v = some t → t.IsNormal ∧ ofJson? (toJson t) = some t := by
  refine ⟨fun _ h => h.readsBack, fun _ => Annotation.readsBack, fun _ => TypeVariable.readsBack,
    fun _ => Wildcard.readsBack, fun _ => ParameterizedType.readsBack, fun _ h => h.readsBack, ?_⟩
  intro v t h
  have hnormal : t.IsNormal := JavaType.isNormal_of_ofJson? h
  exact ⟨hnormal, hnormal.readsBack⟩

/-- A generic class over an array in the default package, a class without a package, a wildcard with an empty
    list of bounds, and one with a declaration in its bounds. -/
def assorted : ParameterizedType :=
  { base := { package := some ⟨"java.util"⟩, name := "Tuple", kind := .interface }
    arguments :=
      [.ofClass { package := some .unnamed, name := "Key", isArray := true },
       .array (.ofClass (.unpackaged "Entry")),
       .wildcard (some []) none,
       .wildcard none (some [.variableDecl "T" (some (.ofClass (.ofPackage ⟨"java.lang"⟩ "Number"))) []])] }

/-- A class as the list of its values, with a package that is not in normal form. -/
def looseClass : Json :=
  .arr [.str "class", .str " java..util. ", .str "List", .obj [("interface", .obj [])]]

/-- The class that this is read as. -/
def listInterface : JavaType := .ofClass { package := some ⟨"java.util"⟩, name := "List", kind := .interface }

theorem assorted_reads_back :
    assorted.toType.IsNormal
    ∧ ofJson? (toJson assorted.base) = some assorted.base
    ∧ ofJson? (toJson ({ annotationClass := assorted.base } : Annotation))
        = some ({ annotationClass := assorted.base } : Annotation)
    ∧ ofJson? (toJson ({ name := "T", moreBounds := assorted.arguments } : TypeVariable))
        = some ({ name := "T", moreBounds := assorted.arguments } : TypeVariable)
    ∧ ofJson? (toJson ({ lower := some assorted.arguments } : Wildcard))
        = some ({ lower := some assorted.arguments } : Wildcard)
    ∧ ofJson? (toJson assorted) = some assorted
    ∧ ofJson? (toJson assorted.toType) = some assorted.toType
    ∧ ofJson? looseClass = some listInterface
    ∧ ofJson? (toJson listInterface) = some listInterface := by
  obtain ⟨hclass, hannotation, hvariable, hwildcard, hparameterized, htype, hread⟩ := written_types_read_back
  have hnormal : assorted.toType.IsNormal := by decide
  have hloose : ofJson? looseClass = some listInterface := by decide
  exact ⟨hnormal, hclass _ (by decide), hannotation _ (by decide), hvariable _ (by decide),
    hwildcard _ (by decide), hparameterized _ hnormal, htype _ hnormal, hloose, (hread _ _ hloose).2⟩

end JavaSource
