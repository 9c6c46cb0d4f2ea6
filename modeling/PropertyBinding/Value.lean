import PropertyBinding.Entries

/-! # Values: what travels between an instance and a store

A store is read and written by property name, and what it hands over is a
`Value`: a tree whose leaves are the absent reference, truth values, 64-bit
integers, double-precision floats, text and raw bytes.  Narrower integers and
floats travel widened, a character travels as a text of length one, and the
entries of a map stand in the order of their keys.
-/
namespace PropertyBinding

/-- A tree of dynamically typed data. -/
inductive Value where
  /-- The absent reference. -/
  | null
  | bool (b : Bool)
  | integer (i : Int64)
  | float (f : Float)
  | string (s : String)
  /-- Raw bytes, which the data format can only carry as Base64 text. -/
  | bytes (data : List UInt8)
  | array (items : List Value)
  /-- Entries in the order of their keys. -/
  | map (entries : List (String × Value))
  deriving Inhabited

namespace Value

/-- The word by which an error names the sort of value it met. -/
def kind : Value → String
  | .null => "null"
  | .bool _ => "bool"
  | .integer _ => "integer"
  | .float _ => "float"
  | .string _ => "string"
  | .bytes _ => "bytes"
  | .array _ => "array"
  | .map _ => "map"

def isNull : Value → Bool
  | .null => true
  | _ => false

def isMap : Value → Bool
  | .map _ => true
  | _ => false

/-- The entry of a map under a key; no other value has entries. -/
def get? : Value → String → Option Value
  | .map entries, key => Entries.get? entries key
  | _, _ => none

/-- Put an entry into a map.  The absent reference counts as a map without
entries; every other value has no place for an entry. -/
def insert? : Value → String → Value → Option Value
  | .null, key, value => some (.map (Entries.insert [] key value))
  | .map entries, key, value => some (.map (Entries.insert entries key value))
  | _, _, _ => none

def asString? : Value → Option String
  | .string s => some s
  | _ => none

def asInteger? : Value → Option Int64
  | .integer i => some i
  | _ => none

/-- The double nearest to an integer; of two that are equally near, the one whose last
binary digit is zero. -/
def nearestFloat (i : Int64) : Float :=
  .ofModel (.ofInt64 i)

/-- A float as it is, an integer as the nearest float. -/
def asFloat? : Value → Option Float
  | .float f => some f
  | .integer i => some (nearestFloat i)
  | _ => none

def asBool? : Value → Option Bool
  | .bool b => some b
  | _ => none

mutual

/-- Whether two values say the same.  Floats are compared as numbers, so that a
value holding a NaN differs from itself and the two zeros are equal. -/
def same : Value → Value → Bool
  | .null, .null => true
  | .bool a, .bool b => a == b
  | .integer a, .integer b => a == b
  | .float a, .float b => a == b
  | .string a, .string b => a == b
  | .bytes a, .bytes b => a == b
  | .array a, .array b => sameItems a b
  | .map a, .map b => sameEntries a b
  | _, _ => false

/-- Item by item, in order. -/
def sameItems : List Value → List Value → Bool
  | [], [] => true
  | a :: as, b :: bs => same a b && sameItems as bs
  | _, _ => false

/-- Entry by entry, in order, keys included. -/
def sameEntries : List (String × Value) → List (String × Value) → Bool
  | [], [] => true
  | (k, a) :: as, (l, b) :: bs => k == l && same a b && sameEntries as bs
  | _, _ => false

end

@[simp] theorem insert?_null (key : String) (value : Value) :
    insert? .null key value = some (.map [(key, value)]) := rfl

@[simp] theorem insert?_map (entries : List (String × Value)) (key : String) (value : Value) :
    insert? (.map entries) key value = some (.map (Entries.insert entries key value)) := rfl

/-- What is put into a value is read back from it, and nothing else changes. -/
theorem get?_of_insert? {target result value : Value} {key : String}
    (h : insert? target key value = some result) (other : String) :
    result.get? other = if other = key then some value else target.get? other := by
  cases target <;> simp only [insert?, reduceCtorEq, Option.some.injEq] at h
  · subst h
    simp [get?, Entries.get?_insert]
  · subst h
    simp [get?, Entries.get?_insert]

/-- Only the absent reference and maps take entries. -/
theorem insert?_eq_none_iff (target : Value) (key : String) (value : Value) :
    insert? target key value = none ↔ target.isNull = false ∧ target.isMap = false := by
  cases target <;> simp [insert?, isNull, isMap]

end Value
end PropertyBinding
