import PropertyBinding.Json.Refusal

/-! # Decoders: reading typed data in the order of the text

A decoder takes the outline of a text to data of some type and stops at the first
problem in the order of the text.  A structure can be given as an object or, by the order
of its fields, as an array; an alternative as its bare name or as an object of one field.
-/
namespace PropertyBinding
namespace Json

/-- A way to read data from an outline. -/
abbrev Decoder (β : Type) := Outline → Except Refusal β

namespace Decoder

variable {β σ : Type}

def string : Decoder String
  | .string (some s) => .ok s
  | outline => .error (.ofOutline outline "a string")

def bool : Decoder Bool
  | .bool b => .ok b
  | outline => .error (.ofOutline outline "a boolean")

/-- A place in a list: an integer that is not negative and fits a word. -/
def index : Decoder Nat
  | .number (some (.integer i)) =>
    if 0 ≤ i.val then .ok i.val.toNat else .error (.invalidValue (.integer i.val) "usize")
  | outline => .error (.ofOutline outline "usize")

/-- Null stands for data that are absent. -/
def option (decoder : Decoder β) : Decoder (Option β)
  | .null => .ok none
  | outline => (decoder outline).map some

/-- The items of an array. -/
def list (decoder : Decoder β) : Decoder (List β)
  | .array items closed => do
    let data ← items.mapM decoder
    if closed then return data else throw .notJson
  | outline => .error (.ofOutline outline "a sequence")

/-- Read a field nobody asks for: it only has to be JSON. -/
def skip (outline : Outline) : Except Refusal Unit :=
  if outline.complete then .ok () else .error .notJson

/-- Read a field that a structure may have once. -/
def once (name : String) (held : Option β) (decoder : Decoder β) (outline : Outline) :
    Except Refusal (Option β) :=
  if held.isSome then .error (.duplicateField name) else (decoder outline).map some

/-- The data of a field at the end of its object. -/
def required (name : String) (held : Option β) : Except Refusal β :=
  match held with
  | some data => .ok data
  | none => .error (.missingField name)

/-- Read the fields of an object one by one into `state`. -/
def fields (field : String → Outline → σ → Except Refusal σ) (state : σ) (closed : Bool) :
    List (Option String × Outline) → Except Refusal σ
  | [] => if closed then .ok state else .error .notJson
  | (some name, value) :: rest => do
    let state ← field name value state
    fields field state closed rest
  | _ => .error .notJson

/-- Read the item of an array that a structure has at some place. -/
def item (expected : String) (place : Nat) (closed : Bool) (items : List Outline)
    (decoder : Decoder β) : Except Refusal β :=
  match items[place]? with
  | some outline => decoder outline
  | none => .error (if closed then .invalidLength place expected else .notJson)

/-- The end of an array from which a structure has taken `taken` items. -/
def done (taken : Nat) (closed : Bool) (items : List Outline) : Except Refusal Unit :=
  if items.length ≤ taken ∧ closed = true then .ok () else .error .notJson

/-- Read an alternative.  A bare name has no data, which `bare` has to accept; the data
behind a name in an object are read by `carrying`.  Both know the name only. -/
def alternative (bare : String → Except Refusal β)
    (carrying : String → Except Refusal (Decoder β)) : Decoder β
  | .string (some word) => bare word
  | .object ((some word, value) :: rest) closed => do
    let decoder ← carrying word
    let data ← decoder value
    if rest.isEmpty && closed then return data else throw .notJson
  | _ => .error .notJson

/-- The data of an alternative that carries none. -/
def unit : Decoder Unit
  | .null => .ok ()
  | outline => .error (.ofOutline outline "unit")

end Decoder

/-- Read data of a type from bytes, of which nothing but blanks may be left. -/
def decode {β : Type} (decoder : Decoder β) (s : List Symbol) : Except Refusal β := do
  let (outline, ended) := Outline.scan s
  let data ← decoder outline
  if ended then return data else throw .notJson

end Json
end PropertyBinding
