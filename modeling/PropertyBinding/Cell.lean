import PropertyBinding.Codec.Point
import PropertyBinding.ValueType

/-! # Cells: typed places for data

A cell holds a scalar, a value, or data of one of a few types that travel encoded.
Its type decides what it can hold, what it holds at first, and as which value type a
member over it is declared.
-/
namespace PropertyBinding

/-- The types that travel encoded. -/
inductive Encoded where
  | text | optionalText | texts | byte | bytes | word | int32 | float | counts | pair
  | point | points | grump | tree
  deriving DecidableEq, Repr

namespace Encoded

/-- The data of each type. -/
abbrev Carrier : Encoded → Type
  | text => String
  | optionalText => Option String
  | texts => List String
  | byte => UInt8
  | bytes => List UInt8
  | word => UInt64
  | int32 => Int32
  | float => Float
  | counts => List (String × Int64)
  | pair => Int32 × Bool
  | point => Point
  | points => List Point
  | grump => Grump
  | tree => Json

/-- The data before anything is written. -/
def initial : (type : Encoded) → type.Carrier
  | text => ""
  | optionalText => none
  | texts => []
  | byte => (0 : UInt8)
  | bytes => []
  | word => (0 : UInt64)
  | int32 => (0 : Int32)
  | float => (0 : Float)
  | counts => []
  | pair => ((0 : Int32), false)
  | point => {}
  | points => []
  | grump => {}
  | tree => .null

/-- How the data of each type travel. -/
def codec : (type : Encoded) → Codec type.Carrier
  | text => Codec.text
  | optionalText => Codec.text.optional
  | texts => Codec.text.list
  | byte => Codec.u8
  | bytes => Codec.u8.list
  | word => Codec.u64
  | int32 => Codec.i32
  | float => Codec.f64
  | counts => Codec.i64.map
  | pair => Codec.i32.pair Codec.bool
  | point => Point.codec
  | points => Point.codec.list
  | grump => Grump.codec
  | tree => Codec.json

end Encoded

/-- What a cell can hold. -/
inductive CellType where
  | scalar (s : Scalar)
  | value
  | encoded (type : Encoded)
  deriving DecidableEq, Repr

namespace CellType

/-- The data of each type. -/
abbrev Carrier : CellType → Type
  | scalar s => s.Carrier
  | value => Value
  | encoded type => type.Carrier

/-- The data before anything is written. -/
def initial : (type : CellType) → type.Carrier
  | scalar s => s.zero
  | value => .null
  | encoded type => type.initial

/-- The type as which a member over the cell is declared; a type that travels encoded
goes by the name it is given. -/
abbrev valueType (typeName : String) : CellType → ValueType
  | scalar s => .scalar s
  | value => .value
  | encoded _ => .object typeName

end CellType

/-- A place for data. -/
structure Cell where
  name : String
  type : CellType
  content : type.Carrier

namespace Cell

/-- The content of the cell, if it is the one of this type and name. -/
def content? (cell : Cell) (type : CellType) (name : String) : Option type.Carrier :=
  if same : cell.type = type then
    if cell.name = name then some (same ▸ cell.content) else none
  else none

end Cell
end PropertyBinding
