import PropertyBinding.Artifact
import PropertyBinding.Json.Decoder

/-! # Artifacts, read

The reader of artifact text.  It stops at the first problem in the order of the text:
a field of a wrong type or a second one of the same name where it stands, a missing one
at the end of its object.  Fields that no structure has are passed over.
-/
namespace PropertyBinding

open Json (Decoder Outline Refusal)

namespace ValueType

/-- The type of a bare word. -/
def ofWord (word : String) : Except Refusal ValueType :=
  match Entries.get? plainWords word with
  | some type => .ok type
  | none =>
    if word = "object" then .error (.invalidType .unitVariant "newtype variant")
    else .error (.unknownVariant word words)

/-- The type of a word that carries data: null for the types that need no name, the
name of an opaque one. -/
def ofCarrying (word : String) : Except Refusal (Decoder ValueType) :=
  match Entries.get? plainWords word with
  | some type => .ok fun outline => (Decoder.unit outline).map fun _ => type
  | none =>
    if word = "object" then .ok fun outline => (Decoder.string outline).map .object
    else .error (.unknownVariant word words)

/-- Read a type. -/
def decoder : Decoder ValueType :=
  Decoder.alternative ofWord ofCarrying

end ValueType

namespace MemberKind

/-- The kind of a word. -/
def ofWord (word : String) : Except Refusal MemberKind :=
  match all.find? fun kind => kind.word == word with
  | some kind => .ok kind
  | none => .error (.unknownVariant word (all.map MemberKind.word))

/-- Read a kind. -/
def decoder : Decoder MemberKind :=
  Decoder.alternative ofWord fun word =>
    (ofWord word).map fun kind outline => (Decoder.unit outline).map fun _ => kind

end MemberKind

namespace Step

/-- The fields of a step found so far. -/
structure Draft where
  index : Option Nat := none
  property : Option String := none
  member : Option String := none
  kind : Option MemberKind := none
  type : Option ValueType := none
  forced : Option Bool := none

def Draft.field (name : String) (value : Outline) (draft : Draft) : Except Refusal Draft :=
  match name with
  | "index" => return { draft with index := ← Decoder.once name draft.index Decoder.index value }
  | "property" =>
    return { draft with property := ← Decoder.once name draft.property Decoder.string value }
  | "member" =>
    return { draft with member := ← Decoder.once name draft.member Decoder.string value }
  | "kind" =>
    return { draft with kind := ← Decoder.once name draft.kind MemberKind.decoder value }
  | "value_type" =>
    return { draft with type := ← Decoder.once name draft.type ValueType.decoder value }
  | "forced" =>
    return { draft with forced := ← Decoder.once name draft.forced Decoder.bool value }
  | _ => (Decoder.skip value).map fun _ => draft

/-- The step of a draft; one that does not say so is not forced. -/
def Draft.step (draft : Draft) : Except Refusal Step := do
  return {
    index := ← Decoder.required "index" draft.index
    property := ← Decoder.required "property" draft.property
    member := ← Decoder.required "member" draft.member
    kind := ← Decoder.required "kind" draft.kind
    type := ← Decoder.required "value_type" draft.type
    forced := draft.forced.getD false }

/-- Read a step. -/
def decoder : Decoder Step
  | .object fields closed => do
    let draft ← Decoder.fields Draft.field {} closed fields
    draft.step
  | .array items closed => do
    let expected := "struct StepSpec with 6 elements"
    let index ← Decoder.item expected 0 closed items Decoder.index
    let property ← Decoder.item expected 1 closed items Decoder.string
    let member ← Decoder.item expected 2 closed items Decoder.string
    let kind ← Decoder.item expected 3 closed items MemberKind.decoder
    let type ← Decoder.item expected 4 closed items ValueType.decoder
    let forced ← match items[5]? with
      | some outline => Decoder.bool outline
      | none => pure false
    Decoder.done 6 closed items
    return { index, property, member, kind, type, forced }
  | outline => .error (.ofOutline outline "struct StepSpec")

end Step

namespace ConstructorChoice

/-- The fields of a constructor found so far. -/
structure Draft where
  index : Option Nat := none
  types : Option (List ValueType) := none

def Draft.field (name : String) (value : Outline) (draft : Draft) : Except Refusal Draft :=
  match name with
  | "index" => return { draft with index := ← Decoder.once name draft.index Decoder.index value }
  | "parameter_types" =>
    return { draft with
      types := ← Decoder.once name draft.types (Decoder.list ValueType.decoder) value }
  | _ => (Decoder.skip value).map fun _ => draft

/-- Read the choice of a constructor. -/
def decoder : Decoder ConstructorChoice
  | .object fields closed => do
    let draft ← Decoder.fields Draft.field {} closed fields
    return {
      index := ← Decoder.required "index" draft.index
      types := ← Decoder.required "parameter_types" draft.types }
  | .array items closed => do
    let expected := "struct ConstructorSpec with 2 elements"
    let index ← Decoder.item expected 0 closed items Decoder.index
    let types ← Decoder.item expected 1 closed items (Decoder.list ValueType.decoder)
    Decoder.done 2 closed items
    return { index, types }
  | outline => .error (.ofOutline outline "struct ConstructorSpec")

end ConstructorChoice

namespace Artifact

/-- The fields of an artifact found so far. -/
structure Draft where
  name : Option String := none
  typePath : Option String := none
  resolver : Option String := none
  constructor : Option (Option ConstructorChoice) := none
  fill : Option (List Step) := none
  extract : Option (List Step) := none

def Draft.field (name : String) (value : Outline) (draft : Draft) : Except Refusal Draft :=
  match name with
  | "name" => return { draft with name := ← Decoder.once name draft.name Decoder.string value }
  | "type_path" =>
    return { draft with typePath := ← Decoder.once name draft.typePath Decoder.string value }
  | "resolver" =>
    return { draft with resolver := ← Decoder.once name draft.resolver Decoder.string value }
  | "constructor" =>
    return { draft with
      constructor := ←
        Decoder.once name draft.constructor (Decoder.option ConstructorChoice.decoder) value }
  | "fill" =>
    return { draft with fill := ← Decoder.once name draft.fill (Decoder.list Step.decoder) value }
  | "extract" =>
    return { draft with
      extract := ← Decoder.once name draft.extract (Decoder.list Step.decoder) value }
  | _ => (Decoder.skip value).map fun _ => draft

/-- The artifact of a draft; one that names no constructor has none. -/
def Draft.artifact (draft : Draft) : Except Refusal Artifact := do
  return {
    name := ← Decoder.required "name" draft.name
    typePath := ← Decoder.required "type_path" draft.typePath
    resolver := ← Decoder.required "resolver" draft.resolver
    constructor := draft.constructor.getD none
    fill := ← Decoder.required "fill" draft.fill
    extract := ← Decoder.required "extract" draft.extract }

/-- Read an artifact. -/
def decoder : Decoder Artifact
  | .object fields closed => do
    let draft ← Decoder.fields Draft.field {} closed fields
    draft.artifact
  | .array items closed => do
    let expected := "struct Artifact with 6 elements"
    let name ← Decoder.item expected 0 closed items Decoder.string
    let typePath ← Decoder.item expected 1 closed items Decoder.string
    let resolver ← Decoder.item expected 2 closed items Decoder.string
    let constructor ←
      Decoder.item expected 3 closed items (Decoder.option ConstructorChoice.decoder)
    let fill ← Decoder.item expected 4 closed items (Decoder.list Step.decoder)
    let extract ← Decoder.item expected 5 closed items (Decoder.list Step.decoder)
    Decoder.done 6 closed items
    return { name, typePath, resolver, constructor, fill, extract }
  | outline => .error (.ofOutline outline "struct Artifact")

/-- The artifact of a list of symbols. -/
def ofSymbols (s : List Json.Symbol) : Except Error Artifact :=
  (Json.decode decoder s).mapError fun refusal => .decode ("artifact: " ++ refusal.message)

/-- The artifact of a list of bytes. -/
def ofBytes (bytes : ByteArray) : Except Error Artifact :=
  ofSymbols (Json.symbols bytes)

end Artifact

/-- The type that a text names. -/
def ValueType.ofText (text : String) : Except Error ValueType :=
  (Json.decode decoder (Json.symbolsOfText text)).mapError fun refusal => .decode refusal.message

end PropertyBinding
