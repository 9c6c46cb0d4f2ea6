import PropertyBinding.Json.Refusal
import PropertyBinding.Store.Recorded

/-! # JSON objects as stores

A JSON object is read and written by the names of its fields.  Typed accesses work
on the tree of a field in place; only the access to values converts a whole tree.
An absent field reads as null, or is an error if the object is strict.
-/
namespace PropertyBinding

/-- A JSON object to read from and to write to. -/
structure JsonObject where
  fields : List (String × Json) := []
  /-- Whether absent fields are errors. -/
  strict : Bool := false

/-- Read an integer from the tree of a property, for a scalar that is of this integer type. -/
def Json.narrowInteger (s : Scalar) (type : IntegerType s.Carrier) (property : String)
    (json : Json) : Except Error s.Carrier :=
  match json.asNumber?.bind JsonNumber.asInteger? with
  | some i => s.narrowInteger type property i
  | none => .error (s.mismatch property json.kind)

/-- Read a scalar from the tree of a property. -/
def Json.narrow (s : Scalar) (property : String) (json : Json) : Except Error s.Carrier :=
  let mismatch : Error := s.mismatch property json.kind
  match s with
  | .i8 => json.narrowInteger .i8 .int8 property
  | .i16 => json.narrowInteger .i16 .int16 property
  | .i32 => json.narrowInteger .i32 .int32 property
  | .i64 => json.narrowInteger .i64 .int64 property
  | .f32 =>
    (json.asNumber?.map fun n => Scalar.narrowFloat property n.toFloat).getD (.error mismatch)
  | .f64 => (json.asNumber?.map fun n => .ok n.toFloat).getD (.error mismatch)
  | .bool => (json.asBool?.map .ok).getD (.error mismatch)
  | .char => (json.asString?.map (Scalar.onlyChar property)).getD (.error mismatch)
  | .string => (json.asString?.map .ok).getD (.error mismatch)

/-- The tree of a scalar.  A float that is not finite has none and becomes null. -/
def Json.ofScalar : (s : Scalar) → s.Carrier → Json
  | .i8, i => .number (.ofInteger i.toInt64)
  | .i16, i => .number (.ofInteger i.toInt64)
  | .i32, i => .number (.ofInteger i.toInt64)
  | .i64, i => .number (.ofInteger i)
  | .f32, f => .ofFloat f.toFloat
  | .f64, f => .ofFloat f
  | .bool, b => .bool b
  | .char, c => .string (String.singleton c)
  | .string, text => .string text

namespace JsonObject

/-- The object that a tree is. -/
def ofJson (json : Json) : Except Error JsonObject :=
  match json with
  | .object fields => .ok { fields }
  | other => .error (.decode s!"expected a JSON object, found {other.kind}")

/-- The object that a text spells. -/
def parse (text : String) : Except Error JsonObject :=
  match Json.parse? text with
  | some json => ofJson json
  | none => .error (.decode Json.Refusal.notJson.message)

def toJson (object : JsonObject) : Json :=
  .object object.fields

/-- The text of the object. -/
def text (object : JsonObject) : String :=
  object.toJson.text

/-- Whether two objects have the same fields and treat absent ones alike. -/
def same (a b : JsonObject) : Bool :=
  a.strict == b.strict && Json.sameFields a.fields b.fields

/-- The tree of a property. -/
def lookup (object : JsonObject) (property : String) : Except Error Json :=
  match Entries.get? object.fields property with
  | some json => .ok json
  | none => if object.strict then .error (.missing property) else .ok .null

/-- Put a tree under a property. -/
def put (object : JsonObject) (property : String) (json : Json) : JsonObject :=
  { object with fields := Entries.insert object.fields property json }

@[simp] theorem strict_put (object : JsonObject) (property : String) (json : Json) :
    (object.put property json).strict = object.strict := rfl

@[simp] theorem lookup_put_self (object : JsonObject) (property : String) (json : Json) :
    (object.put property json).lookup property = .ok json := by
  simp [put, lookup]

theorem lookup_put_of_ne (object : JsonObject) {property other : String} (json : Json)
    (differs : other ≠ property) :
    (object.put property json).lookup other = object.lookup other := by
  simp only [put, lookup]
  rw [Entries.get?_insert_of_ne _ _ differs]
  rfl

/-- The float that a write turns into null because it is not finite. -/
def lostFloat? : Call → Option Float
  | .write .f32 _ f => if f.toFloat.isFinite then none else some f.toFloat
  | .write .f64 _ f => if f.isFinite then none else some f
  | _ => none

end JsonObject

/-- A JSON object as a source. -/
def Source.json : Source JsonObject where
  readValue property object := ((object.lookup property).map Value.ofJson, object)
  read s property object := ((object.lookup property).bind (Json.narrow s property), object)

/-- A JSON object as a sink. -/
def Sink.json : Sink JsonObject where
  writeValue property value object := (.ok (), object.put property (Json.ofValue value))
  write s property data object := (.ok (), object.put property (Json.ofScalar s data))

end PropertyBinding
