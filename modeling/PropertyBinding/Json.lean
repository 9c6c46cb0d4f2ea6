import PropertyBinding.Base64
import PropertyBinding.Decimal
import PropertyBinding.Value

/-! # JSON trees

What JSON text says, with the numbers kept in two sorts: an integer that fits a
64-bit word, signed or unsigned, keeps all its digits, and any other number is a
finite double.

`Json.ofValue` and `Value.ofJson` lead from values to trees and back.  A tree has
no place for raw bytes and for numbers that are not finite; a value has none for
integers of more than 63 bits.
-/
namespace PropertyBinding

/-- A number of a JSON tree. -/
inductive JsonNumber where
  /-- An integer that fits a signed or an unsigned word. -/
  | integer (i : { i : Int // -0x8000000000000000 ≤ i ∧ i < 0x10000000000000000 })
  | float (f : { f : Float // f.isFinite = true })

/-- A tree of JSON data. -/
inductive Json where
  | null
  | bool (b : Bool)
  | number (n : JsonNumber)
  | string (s : String)
  | array (items : List Json)
  /-- Named fields; in a tree that was read they stand in the order of their names. -/
  | object (fields : List (String × Json))
  deriving Inhabited

namespace JsonNumber

/-- The number as a signed word, if it is an integer that fits one. -/
def asInteger? : JsonNumber → Option Int64
  | integer i => if i.val < 0x8000000000000000 then some (Int64.ofInt i.val) else none
  | float _ => none

/-- The number as a double, an integer as the nearest one. -/
def toFloat : JsonNumber → Float
  | integer i =>
    if 0 ≤ i.val then (UInt64.ofNat i.val.toNat).toFloat
    else Value.nearestFloat (Int64.ofInt i.val)
  | float f => f.val

/-- The integer of a word. -/
def ofInteger (i : Int64) : JsonNumber :=
  .integer ⟨i.toInt, i.le_toInt, Int.lt_trans i.toInt_lt (by decide)⟩

/-- The integer of an unsigned word. -/
def ofNatural (n : UInt64) : JsonNumber :=
  .integer ⟨n.toNat, by omega, by have := n.toNat_lt; omega⟩

theorem asInteger?_ofInteger (i : Int64) : (ofInteger i).asInteger? = some i := by
  have fits : i.toInt < 0x8000000000000000 := i.toInt_lt
  simp [ofInteger, asInteger?, fits]

/-- Whether two numbers are of one sort and equal; the two zeros are. -/
def same : JsonNumber → JsonNumber → Bool
  | integer a, integer b => a == b
  | float a, float b => a.val == b.val
  | _, _ => false

end JsonNumber

namespace Json

/-- The word by which an error names the sort of tree it met. -/
def kind : Json → String
  | null => "null"
  | bool _ => "bool"
  | number (.float _) => "float"
  | number (.integer _) => "integer"
  | string _ => "string"
  | array _ => "array"
  | object _ => "object"

/-- A double as a tree, or null if it is not finite. -/
def ofFloat (f : Float) : Json :=
  if finite : f.isFinite = true then .number (.float ⟨f, finite⟩) else .null

def asBool? : Json → Option Bool
  | bool b => some b
  | _ => none

def asString? : Json → Option String
  | string s => some s
  | _ => none

def asNumber? : Json → Option JsonNumber
  | number n => some n
  | _ => none

mutual

/-- Whether two trees say the same. -/
def same : Json → Json → Bool
  | null, null => true
  | bool a, bool b => a == b
  | number a, number b => a.same b
  | string a, string b => a == b
  | array a, array b => sameItems a b
  | object a, object b => sameFields a b
  | _, _ => false

/-- Item by item, in order. -/
def sameItems : List Json → List Json → Bool
  | [], [] => true
  | a :: as, b :: bs => same a b && sameItems as bs
  | _, _ => false

/-- Field by field, in order, names included. -/
def sameFields : List (String × Json) → List (String × Json) → Bool
  | [], [] => true
  | (k, a) :: as, (l, b) :: bs => k == l && same a b && sameFields as bs
  | _, _ => false

end

mutual

/-- The tree of a value: bytes become Base64 text, and numbers that are not finite null. -/
def ofValue : Value → Json
  | .null => .null
  | .bool b => .bool b
  | .integer i => .number (.ofInteger i)
  | .float f => ofFloat f
  | .string s => .string s
  | .bytes data => .string (Base64.encode data)
  | .array items => .array (ofItems items)
  | .map entries => .object (ofEntries entries)

/-- The trees of a list of values. -/
def ofItems : List Value → List Json
  | [] => []
  | item :: rest => ofValue item :: ofItems rest

/-- The trees of the entries of a map, under the same keys. -/
def ofEntries : List (String × Value) → List (String × Json)
  | [] => []
  | (key, value) :: rest => (key, ofValue value) :: ofEntries rest

end

theorem ofItems_eq_map (items : List Value) : ofItems items = items.map ofValue := by
  induction items with
  | nil => rfl
  | cons item rest ih => rw [ofItems, ih, List.map_cons]

theorem ofEntries_eq_mapValues (entries : List (String × Value)) :
    ofEntries entries = Entries.mapValues ofValue entries := by
  induction entries with
  | nil => rfl
  | cons entry rest ih => rw [ofEntries, ih]; rfl

end Json

namespace Value

/-- The value of a number: an integer if it fits a signed word, else a float. -/
def ofNumber (n : JsonNumber) : Value :=
  match n.asInteger? with
  | some i => .integer i
  | none => .float n.toFloat

mutual

/-- The value of a tree. -/
def ofJson : Json → Value
  | .null => .null
  | .bool b => .bool b
  | .number n => ofNumber n
  | .string s => .string s
  | .array items => .array (ofItems items)
  | .object fields => .map (ofFields fields)

/-- The values of a list of trees. -/
def ofItems : List Json → List Value
  | [] => []
  | item :: rest => ofJson item :: ofItems rest

/-- The values of the fields of an object, under the same names. -/
def ofFields : List (String × Json) → List (String × Value)
  | [] => []
  | (key, json) :: rest => (key, ofJson json) :: ofFields rest

end

theorem ofItems_eq_map (items : List Json) : ofItems items = items.map ofJson := by
  induction items with
  | nil => rfl
  | cons item rest ih => rw [ofItems, ih, List.map_cons]

theorem ofFields_eq_mapValues (fields : List (String × Json)) :
    ofFields fields = Entries.mapValues ofJson fields := by
  induction fields with
  | nil => rfl
  | cons field rest ih => rw [ofFields, ih]; rfl

end Value
end PropertyBinding
