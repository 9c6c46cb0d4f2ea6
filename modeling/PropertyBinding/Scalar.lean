import PropertyBinding.Decimal
import PropertyBinding.Error
import PropertyBinding.Value

/-! # Scalars: the nine types with a typed access of their own

A store answers a read of each of these types directly.  `Scalar.widen` says as
which value a scalar travels, and `Scalar.narrow` reads one back: it accepts
exactly the values that widening produces, and for the two float types also
integers.

The integer types differ in their bounds only: an `IntegerType` has these, and one
function reads a word of any of them.
-/
namespace PropertyBinding

/-- A type of signed words that are the integers between two bounds, within 64 bits. -/
structure IntegerType (Word : Type) where
  /-- The least integer. -/
  low : Int
  /-- The first integer beyond. -/
  beyond : Int
  toInt : Word → Int
  ofInt : Int → Word
  /-- The word with 64 bits. -/
  widen : Word → Int64
  low_le : ∀ word, low ≤ toInt word
  lt_beyond : ∀ word, toInt word < beyond
  ofInt_toInt : ∀ word, ofInt (toInt word) = word
  toInt_ofInt : ∀ {i : Int}, low ≤ i → i < beyond → toInt (ofInt i) = i
  toInt_widen : ∀ word, (widen word).toInt = toInt word

namespace IntegerType

def int8 : IntegerType Int8 where
  low := -0x80
  beyond := 0x80
  toInt := Int8.toInt
  ofInt := Int8.ofInt
  widen := Int8.toInt64
  low_le := Int8.le_toInt
  lt_beyond := Int8.toInt_lt
  ofInt_toInt := Int8.ofInt_toInt
  toInt_ofInt := Int8.toInt_ofInt_of_le
  toInt_widen := Int8.toInt_toInt64

def int16 : IntegerType Int16 where
  low := -0x8000
  beyond := 0x8000
  toInt := Int16.toInt
  ofInt := Int16.ofInt
  widen := Int16.toInt64
  low_le := Int16.le_toInt
  lt_beyond := Int16.toInt_lt
  ofInt_toInt := Int16.ofInt_toInt
  toInt_ofInt := Int16.toInt_ofInt_of_le
  toInt_widen := Int16.toInt_toInt64

def int32 : IntegerType Int32 where
  low := -0x80000000
  beyond := 0x80000000
  toInt := Int32.toInt
  ofInt := Int32.ofInt
  widen := Int32.toInt64
  low_le := Int32.le_toInt
  lt_beyond := Int32.toInt_lt
  ofInt_toInt := Int32.ofInt_toInt
  toInt_ofInt := Int32.toInt_ofInt_of_le
  toInt_widen := Int32.toInt_toInt64

def int64 : IntegerType Int64 where
  low := -0x8000000000000000
  beyond := 0x8000000000000000
  toInt := Int64.toInt
  ofInt := Int64.ofInt
  widen := id
  low_le := Int64.le_toInt
  lt_beyond := Int64.toInt_lt
  ofInt_toInt := Int64.ofInt_toInt
  toInt_ofInt := Int64.toInt_ofInt_of_le
  toInt_widen _ := rfl

variable {Word : Type} (type : IntegerType Word)

/-- The word of the type that is this integer, if there is one. -/
def ofInt64? (i : Int64) : Option Word :=
  if type.low ≤ i.toInt ∧ i.toInt < type.beyond then some (type.ofInt i.toInt) else none

/-- A word is found for the integer that it is, and for no other: nothing wraps. -/
theorem ofInt64?_eq_some_iff {i : Int64} {word : Word} :
    type.ofInt64? i = some word ↔ i = type.widen word := by
  rw [ofInt64?, Option.ite_none_right_eq_some, Option.some_inj, ← Int64.toInt_inj,
    type.toInt_widen]
  constructor
  · rintro ⟨⟨hlow, hbeyond⟩, rfl⟩
    exact (type.toInt_ofInt hlow hbeyond).symm
  · intro h
    rw [h, type.ofInt_toInt]
    exact ⟨⟨type.low_le word, type.lt_beyond word⟩, rfl⟩

theorem ofInt64?_eq_none_iff {i : Int64} :
    type.ofInt64? i = none ↔ ¬(type.low ≤ i.toInt ∧ i.toInt < type.beyond) := by
  simp [ofInt64?]

end IntegerType

/-- A type that stores read and write without going through a tree. -/
inductive Scalar where
  | i8 | i16 | i32 | i64 | f32 | f64 | bool | char | string
  deriving DecidableEq, Repr

namespace Scalar

/-- The scalars, in the order in which an error lists them. -/
def all : List Scalar :=
  [i8, i16, i32, i64, f32, f64, bool, char, string]

theorem mem_all (s : Scalar) : s ∈ all := by
  cases s <;> simp [all]

def name : Scalar → String
  | i8 => "i8" | i16 => "i16" | i32 => "i32" | i64 => "i64"
  | f32 => "f32" | f64 => "f64" | bool => "bool" | char => "char" | string => "string"

/-- The data of each scalar type. -/
abbrev Carrier : Scalar → Type
  | i8 => Int8 | i16 => Int16 | i32 => Int32 | i64 => Int64
  | f32 => Float32 | f64 => Float | bool => Bool | char => Char | string => String

/-- The content of a scalar that nothing has been written to. -/
def zero : (s : Scalar) → s.Carrier
  | i8 => (0 : Int8) | i16 => (0 : Int16) | i32 => (0 : Int32) | i64 => (0 : Int64)
  | f32 => (0 : Float32) | f64 => (0 : Float) | bool => false | char => '\x00' | string => ""

/-- The value as which a scalar travels: integers with 64 bits, floats in double
precision, a character as a text of length one. -/
def widen : (s : Scalar) → s.Carrier → Value
  | i8, i => .integer i.toInt64
  | i16, i => .integer i.toInt64
  | i32, i => .integer i.toInt64
  | i64, i => .integer i
  | f32, f => .float f.toFloat
  | f64, f => .float f
  | bool, b => .bool b
  | char, c => .string (String.singleton c)
  | string, s => .string s

/-- The error of a value that is no scalar of this type. -/
def mismatch (s : Scalar) (property found : String) : Error :=
  .conversion property s.name found

/-- The error of an integer that a narrower type cannot hold. -/
def integerOutOfRange (s : Scalar) (property : String) (i : Int64) : Error :=
  s.mismatch property s!"integer {i.toInt} out of range"

/-- The error of a text that is not one character long. -/
def notOneCharacter (property text : String) : Error :=
  char.mismatch property s!"string of length {text.length}"

/-- A double in single precision.  A finite one beyond the range of single precision is
refused; the infinities and NaN pass. -/
def narrowFloat (property : String) (f : Float) : Except Error Float32 :=
  let narrowed := f.toFloat32
  if f.isFinite && narrowed.isInf then
    .error (f32.mismatch property s!"float {Decimal.plain f} out of range")
  else .ok narrowed

/-- The single character of a text. -/
def onlyChar (property text : String) : Except Error Char :=
  match text.toList with
  | [c] => .ok c
  | _ => .error (notOneCharacter property text)

/-- An integer in the width of a scalar, whose data are the words of this integer type. -/
def narrowInteger (s : Scalar) (type : IntegerType s.Carrier) (property : String) (i : Int64) :
    Except Error s.Carrier :=
  match type.ofInt64? i with
  | some word => .ok word
  | none => .error (s.integerOutOfRange property i)

/-- Read a scalar back from the value of a property. -/
def narrow : (s : Scalar) → (property : String) → Value → Except Error s.Carrier
  | i8, property, .integer i => narrowInteger i8 .int8 property i
  | i16, property, .integer i => narrowInteger i16 .int16 property i
  | i32, property, .integer i => narrowInteger i32 .int32 property i
  | i64, property, .integer i => narrowInteger i64 .int64 property i
  | f32, property, .float f => narrowFloat property f
  | f32, property, .integer i => narrowFloat property (Value.nearestFloat i)
  | f64, _, .float f => .ok f
  | f64, _, .integer i => .ok (Value.nearestFloat i)
  | bool, _, .bool b => .ok b
  | char, property, .string text => onlyChar property text
  | string, _, .string text => .ok text
  | s, property, value => .error (s.mismatch property value.kind)

theorem narrowInteger_widen (s : Scalar) (type : IntegerType s.Carrier) (property : String)
    (word : s.Carrier) : s.narrowInteger type property (type.widen word) = .ok word := by
  rw [narrowInteger, type.ofInt64?_eq_some_iff.mpr rfl]

/-- Every scalar but the single-precision float is read back from the value it travels as. -/
theorem narrow_widen (s : Scalar) (property : String) (x : s.Carrier) (not_single : s ≠ f32) :
    narrow s property (widen s x) = .ok x := by
  cases s with
  | i8 => exact narrowInteger_widen i8 .int8 property x
  | i16 => exact narrowInteger_widen i16 .int16 property x
  | i32 => exact narrowInteger_widen i32 .int32 property x
  | i64 => exact narrowInteger_widen i64 .int64 property x
  | f32 => exact absurd rfl not_single
  | char => simp [widen, narrow, onlyChar]
  | _ => rfl

end Scalar
end PropertyBinding
