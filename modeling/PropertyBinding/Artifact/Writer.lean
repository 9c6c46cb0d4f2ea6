import PropertyBinding.Artifact
import PropertyBinding.Json.Writer

/-! # Artifacts, written

An artifact is written as JSON text, each structure as an object whose fields stand in
the order of the structure.
-/
namespace PropertyBinding

/-- A type by its word, an opaque one as an object that holds its name. -/
def ValueType.toJson : ValueType → Json
  | .object typeName => .object [("object", .string typeName)]
  | type => .string type.name

namespace Artifact

/-- The tree of a place. -/
def indexJson (index : Nat) : Json :=
  .number (.ofNatural (UInt64.ofNat index))

end Artifact

def Step.toJson (step : Step) : Json :=
  .object [
    ("index", Artifact.indexJson step.index),
    ("property", .string step.property),
    ("member", .string step.member),
    ("kind", .string step.kind.word),
    ("value_type", step.type.toJson),
    ("forced", .bool step.forced)]

def ConstructorChoice.toJson (choice : ConstructorChoice) : Json :=
  .object [
    ("index", Artifact.indexJson choice.index),
    ("parameter_types", .array (choice.types.map ValueType.toJson))]

namespace Artifact

def toJson (artifact : Artifact) : Json :=
  .object [
    ("name", .string artifact.name),
    ("type_path", .string artifact.typePath),
    ("resolver", .string artifact.resolver),
    ("constructor", (artifact.constructor.map ConstructorChoice.toJson).getD .null),
    ("fill", .array (artifact.fill.map Step.toJson)),
    ("extract", .array (artifact.extract.map Step.toJson))]

/-- The text of an artifact. -/
def text (artifact : Artifact) : String :=
  artifact.toJson.text

/-- The bytes of an artifact. -/
def toBytes (artifact : Artifact) : ByteArray :=
  artifact.text.toUTF8

end Artifact
end PropertyBinding
