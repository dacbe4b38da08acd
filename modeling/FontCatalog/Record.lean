import FontCatalog.Config
import FontCatalog.Document
import FontCatalog.Tag

/-!
# Font records

What the configuration says about one font, taken out of its element. Each field is read on its
own: a malformed attribute gives the field's default and a malformed axis is dropped. Records have
a JSON form.
-/

namespace FontCatalog

/-- A setting of an axis of a variable font. -/
structure Axis where
  tag : Tag
  value : Number.Single
  deriving DecidableEq, Repr, Inhabited

structure Record where
  path : Path
  weight : UInt16
  italic : Bool
  /-- The number of the font in a collection file. -/
  index : UInt32
  locale : Option String
  axes : List Axis
  deriving DecidableEq, Repr, Inhabited

namespace Axis

-- Equality of values.
def sameValue (a b : Axis) : Bool := a.tag == b.tag && a.value.sameValue b.value

-- The setting that an `axis` element makes, if it is well-formed.
def ofElement? (d : Document) (axis : ElementId) : Option Axis := do
  let tag ← Tag.ofText? (← d.attribute? axis "tag")
  let value ← d.attribute? axis "stylevalue"
  return ⟨tag, ← Number.Single.read (Text.trim Text.isBlank value.toList)⟩

end Axis

namespace Record

def defaultWeight : UInt16 := 400

/-! ## Records of elements -/

-- The number in an attribute with XML white space around it, or a default.
def numberOr {α : Type} (read : List Char → Except Number.DigitsError α) (raw : Option String)
    (default : α) : α :=
  match raw with
  | some value => ((read (Text.trim Text.isXmlBlank value.toList)).toOption).getD default
  | none => default

-- The locale of a font.
def localeOf (d : Document) (font : ElementId) : LocaleSource → Option String
  | .family => do d.attribute? (← d.parent? font) "lang"
  | .documentParent => none

-- The record of a `font` element.
def ofElement (d : Document) (font : ElementId) (dir : Path) (source : LocaleSource) : Record where
  path := dir.under (Utf8.encode (Text.trim Text.isXmlBlank (d.text font).toList))
  weight := numberOr Number.readUInt16 (d.attribute? font "weight") defaultWeight
  italic := d.attribute? font "style" == some "italic"
  index := numberOr Number.readUInt32 (d.attribute? font "index") 0
  locale := localeOf d font source
  axes := (d.childrenNamed font "axis").filterMap (Axis.ofElement? d)

/-! ## Access -/

-- Equality of values: paths by their components and axis values as numbers.
def sameValue (a b : Record) : Bool :=
  a.path.same b.path && a.weight == b.weight && a.italic == b.italic && a.index == b.index &&
    a.locale == b.locale && a.axes.length == b.axes.length &&
    (a.axes.zip b.axes).all fun (x, y) => x.sameValue y

-- The axis with a number, or the message that there is none.
def axis (r : Record) (i : Nat) : Except String Axis :=
  (r.axes[i]?).elim
    (.error ("axis index " ++ toString i ++ " is out of bounds (< " ++ toString r.axes.length
      ++ ")")) .ok

-- The path as text, followed by the number in the collection unless that is zero.
def pathWithIndex (r : Record) : String :=
  if r.index = 0 then r.path.display
  else r.path.display ++ "#" ++ String.ofList (Number.decimal r.index.toNat)

/-! ## JSON form -/

end Record

namespace Axis

def toJson (a : Axis) : Json :=
  .object [("tag", .string a.tag.toText), ("value", Json.ofSingle a.value)]

def readTag : Json.Reader Tag := fun s => do
  let (raw, rest) ← Json.readString "a string" s
  match Tag.parse raw with
  | .ok t => return (t, rest)
  | .error e => throw (.wrongShape e.message)

/-- The fields read so far. -/
structure Fields where
  tag : Option Tag
  value : Option Number.Single

def readMember : Json.Member Fields := fun fields key =>
  if key = "tag" then Json.once key fields.tag readTag fun v => { fields with tag := some v }
  else if key = "value" then
    Json.once key fields.value Json.readSingle fun v => { fields with value := some v }
  else Json.ignored fields

def Fields.finish (fields : Fields) : Except Json.ReadError Axis := do
  return ⟨← Json.required "tag" fields.tag, ← Json.required "value" fields.value⟩

-- An axis as a list of its fields.
def readItems : Json.Reader Axis := fun s => do
  let (tag, s) ← Json.readItem "FontAxis" 2 0 readTag s
  let (value, s) ← Json.readItem "FontAxis" 2 1 Json.readSingle s
  return (⟨tag, value⟩, s)

def read : Json.Reader Axis :=
  Json.readStruct "FontAxis" ⟨none, none⟩ readMember Fields.finish readItems

end Axis

namespace Record

def toJson (r : Record) : Json :=
  .object [
    ("file_path", Json.ofPath r.path),
    ("weight", Json.ofNat r.weight.toNat),
    ("italic", .bool r.italic),
    ("collection_index", Json.ofNat r.index.toNat),
    ("locale", r.locale.elim .null .string),
    ("axes", .array (r.axes.map Axis.toJson))]

def readWeight : Json.Reader UInt16 := fun s => do
  let (n, rest) ← Json.readNat "u16" 65535 s
  return (UInt16.ofNat n, rest)

def readIndex : Json.Reader UInt32 := fun s => do
  let (n, rest) ← Json.readNat "u32" 4294967295 s
  return (UInt32.ofNat n, rest)

def readLocale : Json.Reader (Option String) :=
  Json.readOptional (Json.readString "a string")

def readAxes : Json.Reader (List Axis) := Json.readList Axis.read

/-- The fields read so far. -/
structure Fields where
  path : Option Path
  weight : Option UInt16
  italic : Option Bool
  index : Option UInt32
  locale : Option (Option String)
  axes : Option (List Axis)

def Fields.none : Fields := ⟨.none, .none, .none, .none, .none, .none⟩

def readMember : Json.Member Fields := fun fields key =>
  if key = "file_path" then
    Json.once key fields.path Json.readPath fun v => { fields with path := some v }
  else if key = "weight" then
    Json.once key fields.weight readWeight fun v => { fields with weight := some v }
  else if key = "italic" then
    Json.once key fields.italic Json.readBool fun v => { fields with italic := some v }
  else if key = "collection_index" then
    Json.once key fields.index readIndex fun v => { fields with index := some v }
  else if key = "locale" then
    Json.once key fields.locale readLocale fun v => { fields with locale := some v }
  else if key = "axes" then
    Json.once key fields.axes readAxes fun v => { fields with axes := some v }
  else Json.ignored fields

-- A record from its fields. Only the locale may be missing.
def Fields.finish (fields : Fields) : Except Json.ReadError Record := do
  let path ← Json.required "file_path" fields.path
  let weight ← Json.required "weight" fields.weight
  let italic ← Json.required "italic" fields.italic
  let index ← Json.required "collection_index" fields.index
  let axes ← Json.required "axes" fields.axes
  return ⟨path, weight, italic, index, fields.locale.getD .none, axes⟩

-- A record as a list of its fields.
def readItems : Json.Reader Record := fun s => do
  let item {α : Type} (count : Nat) (read : Json.Reader α) : Json.Reader α :=
    Json.readItem "FontRecord" 6 count read
  let (path, s) ← item 0 Json.readPath s
  let (weight, s) ← item 1 readWeight s
  let (italic, s) ← item 2 Json.readBool s
  let (index, s) ← item 3 readIndex s
  let (locale, s) ← item 4 readLocale s
  let (axes, s) ← item 5 readAxes s
  return (⟨path, weight, italic, index, locale, axes⟩, s)

def read : Json.Reader Record :=
  Json.readStruct "FontRecord" Fields.none readMember Fields.finish readItems

end Record

end FontCatalog
