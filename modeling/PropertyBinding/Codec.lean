import PropertyBinding.Error
import PropertyBinding.Json.Refusal

/-! # Codecs: how data of an opaque type travel

An opaque type is known to a converter by a way to write its data as a JSON tree and
a way to read them back.  `Codec.toValue` and `Codec.ofValue` take the one step
further to the values that stores exchange.
-/
namespace PropertyBinding

/-- How data of a type are written as trees and read back. -/
structure Codec (β : Type) where
  /-- The tree of the data, or the reason why they have none. -/
  encode : β → Except String Json
  decode : Json → Except Json.Refusal β

namespace Codec

variable {β : Type}

/-- The value of the data. -/
def toValue (codec : Codec β) (data : β) : Except Error Value :=
  match codec.encode data with
  | .ok json => .ok (Value.ofJson json)
  | .error reason => .error (.encode reason)

/-- The data that a value stands for. -/
def ofValue (codec : Codec β) (value : Value) : Except Error β :=
  match codec.decode (Json.ofValue value) with
  | .ok data => .ok data
  | .error refusal => .error (.decode refusal.message)

end Codec
end PropertyBinding
