import PropertyBinding.Codec

/-! # Standard codecs

Texts, integers of a width, floats, lists, optional data, pairs and maps.  A decoder
names what it expected, and of several unsuitable items the first one counts.
-/
namespace PropertyBinding
namespace Codec

open Json (Refusal)

variable {β γ : Type}

/-- A text. -/
def text : Codec String where
  encode s := .ok (.string s)
  decode
    | .string s => .ok s
    | json => .error (.ofJson json "a string")

/-- A truth value. -/
def bool : Codec Bool where
  encode b := .ok (.bool b)
  decode
    | .bool b => .ok b
    | json => .error (.ofJson json "a boolean")

/-- Integers of a type called `name`, which holds those that `ofInt?` accepts. -/
def integer (name : String) (number : β → JsonNumber) (ofInt? : Int → Option β) : Codec β where
  encode i := .ok (.number (number i))
  decode
    | .number (.integer i) =>
      match ofInt? i.val with
      | some data => .ok data
      | none => .error (.invalidValue (.integer i.val) name)
    | json => .error (.ofJson json name)

/-- Unsigned integers of 8 bits. -/
def u8 : Codec UInt8 :=
  integer "u8" (fun n => .ofNatural n.toUInt64)
    fun i => if 0 ≤ i ∧ i < 0x100 then some (UInt8.ofNat i.toNat) else none

/-- Unsigned integers of 64 bits. -/
def u64 : Codec UInt64 :=
  integer "u64" JsonNumber.ofNatural
    fun i => if 0 ≤ i ∧ i < 0x10000000000000000 then some (UInt64.ofNat i.toNat) else none

/-- Signed integers of 32 bits. -/
def i32 : Codec Int32 :=
  integer "i32" (fun i => .ofInteger i.toInt64)
    fun i => if -0x80000000 ≤ i ∧ i < 0x80000000 then some (Int32.ofInt i) else none

/-- Signed integers of 64 bits. -/
def i64 : Codec Int64 :=
  integer "i64" JsonNumber.ofInteger
    fun i => if -0x8000000000000000 ≤ i ∧ i < 0x8000000000000000 then some (Int64.ofInt i) else none

/-- Doubles; every number is read, and those that are not finite are written as null. -/
def f64 : Codec Float where
  encode f := .ok (Json.ofFloat f)
  decode
    | .number n => .ok n.toFloat
    | json => .error (.ofJson json "f64")

/-- Any tree. -/
def json : Codec Json where
  encode tree := .ok tree
  decode tree := .ok tree

/-- Data that may be absent, which is written as null. -/
def optional (codec : Codec β) : Codec (Option β) where
  encode
    | none => .ok .null
    | some data => codec.encode data
  decode
    | .null => .ok none
    | json => (codec.decode json).map some

/-- A list. -/
def list (codec : Codec β) : Codec (List β) where
  encode items := (items.mapM codec.encode).map .array
  decode
    | .array items => items.mapM codec.decode
    | json => .error (.ofJson json "a sequence")

/-- The refusal of a tuple or structure that is given too many items. -/
def tooLong (items : List Json) : Refusal :=
  .invalidLength items.length "fewer elements in array"

/-- A pair, as a list of two. -/
def pair (first : Codec β) (second : Codec γ) : Codec (β × γ) where
  encode data := do
    let a ← first.encode data.1
    let b ← second.encode data.2
    return .array [a, b]
  decode
    | .array [] => .error (.invalidLength 0 "a tuple of size 2")
    | .array (a :: rest) => do
      let a ← first.decode a
      match rest with
      | [] => throw (.invalidLength 1 "a tuple of size 2")
      | b :: more =>
        let b ← second.decode b
        if more.isEmpty then return (a, b) else throw (tooLong (.null :: rest))
    | json => .error (.ofJson json "a tuple of size 2")

/-- Write the data of a map entry by entry. -/
def encodeEntries (codec : Codec β) : List (String × β) → Except String (List (String × Json))
  | [] => .ok []
  | (key, data) :: rest => do
    let json ← codec.encode data
    let others ← encodeEntries codec rest
    return (key, json) :: others

/-- Read the data of a map entry by entry. -/
def decodeEntries (codec : Codec β) : List (String × Json) → Except Refusal (List (String × β))
  | [] => .ok []
  | (key, json) :: rest => do
    let data ← codec.decode json
    let others ← decodeEntries codec rest
    return (key, data) :: others

/-- A map from texts. -/
def map (codec : Codec β) : Codec (List (String × β)) where
  encode entries := (codec.encodeEntries entries).map .object
  decode
    | .object fields => codec.decodeEntries fields
    | json => .error (.ofJson json "a map")

end Codec
end PropertyBinding
