import PropertyBinding.Json.Outline
import PropertyBinding.Json.Writer
import PropertyBinding.Text.Quoted

/-! # Refusals: why JSON data are not of the type that was asked for

A decoder asks a text or a tree for data of some type.  What it meets instead is
a `Found`, and the ways in which the data can be unsuitable are the constructors of
`Refusal`; `Refusal.message` words them.
-/
namespace PropertyBinding
namespace Json

/-- What a decoder met. -/
inductive Found where
  | null
  | bool (b : Bool)
  | integer (i : Int)
  | float (f : Float)
  | string (s : String)
  | sequence
  | map
  /-- The bare name of an alternative that should carry data. -/
  | unitVariant

/-- Why a decoder stopped. -/
inductive Refusal where
  /-- The text is not JSON. -/
  | notJson
  /-- Data of another sort than the type has. -/
  | invalidType (found : Found) (expected : String)
  /-- Data of the right sort, but none of the type. -/
  | invalidValue (found : Found) (expected : String)
  /-- A sequence with too few or too many items. -/
  | invalidLength (length : Nat) (expected : String)
  | missingField (name : String)
  | duplicateField (name : String)
  /-- A word that names none of the alternatives. -/
  | unknownVariant (word : String) (expected : List String)

namespace Found

/-- How a message shows what was met. -/
def text : Found → String
  | null => "null"
  | bool b => if b then "boolean `true`" else "boolean `false`"
  | integer i => s!"integer `{String.ofList (integerChars i)}`"
  | float f => s!"floating point `{String.ofList (Decimal.numeral f)}`"
  | string s => s!"string {Text.quoted s}"
  | sequence => "sequence"
  | map => "map"
  | unitVariant => "unit variant"

/-- A number, as it is met. -/
def ofNumber : JsonNumber → Found
  | .integer i => integer i.val
  | .float f => float f.val

/-- A tree, as it is met. -/
def ofJson : Json → Found
  | .null => null
  | .bool b => bool b
  | .number n => ofNumber n
  | .string s => string s
  | .array _ => sequence
  | .object _ => map

end Found

namespace Refusal

/-- The wording of a refusal. -/
def message : Refusal → String
  | notJson => "invalid JSON"
  | invalidType found expected => s!"invalid type: {found.text}, expected {expected}"
  | invalidValue found expected => s!"invalid value: {found.text}, expected {expected}"
  | invalidLength length expected => s!"invalid length {length}, expected {expected}"
  | missingField name => s!"missing field `{name}`"
  | duplicateField name => s!"duplicate field `{name}`"
  | unknownVariant word expected =>
    let choices := ", ".intercalate (expected.map fun choice => s!"`{choice}`")
    s!"unknown variant `{word}`, expected one of {choices}"

/-- The refusal of a tree that is not of the expected sort. -/
def ofJson (json : Json) (expected : String) : Refusal :=
  .invalidType (.ofJson json) expected

/-- The refusal of an outline that is not of the expected sort.  What cannot be shown,
because the text is broken there, is no JSON. -/
def ofOutline (outline : Outline) (expected : String) : Refusal :=
  match outline with
  | .null => .invalidType .null expected
  | .bool b => .invalidType (.bool b) expected
  | .number (some n) => .invalidType (.ofNumber n) expected
  | .string (some s) => .invalidType (.string s) expected
  | .array _ _ => .invalidType .sequence expected
  | .object _ _ => .invalidType .map expected
  | .number none | .string none | .broken => .notJson

end Refusal
end Json
end PropertyBinding
