import PropertyBinding.Artifact.Reader
import PropertyBinding.Artifact.Writer
import PropertyBinding.Proofs.Realization
import PropertyBinding.Proofs.TreeText

/-! # Artifacts come back from their bytes

An artifact that was written is read back whole, whatever its texts hold
(`Artifact.ofBytes_toBytes`).  All that is asked is that its places fit a machine word
(`Artifact.Addressable`), as those of members and constructors in memory do.

The bytes are those of a tree in which only places are numbers, so the tree is legible and
the artifact is decoded from its outline.  There each part has its own decoder, which
answers the part: `decoder_outline` says so of types, kinds, steps, constructors and whole
artifacts, and `Decoder.list_outline` lifts it to lists.
-/
namespace PropertyBinding

open Json

/-! ## What the trees hold -/

theorem Artifact.legible_indexJson (index : Nat) : (Artifact.indexJson index).Legible :=
  JsonNumber.legible_integer _

theorem ValueType.legible_toJson (type : ValueType) : type.toJson.Legible := by
  cases type <;> simp [ValueType.toJson, Legible, LegibleFields]

theorem Step.legible_toJson (step : Step) : step.toJson.Legible := by
  simp [Step.toJson, Legible, LegibleFields, Artifact.legible_indexJson,
    ValueType.legible_toJson]

theorem ConstructorChoice.legible_toJson (choice : ConstructorChoice) :
    choice.toJson.Legible := by
  simp [ConstructorChoice.toJson, Legible, LegibleFields, Artifact.legible_indexJson,
    legibleItems_iff, ValueType.legible_toJson]

theorem Artifact.legible_toJson (artifact : Artifact) : artifact.toJson.Legible := by
  have hconstructor : ((artifact.constructor.map ConstructorChoice.toJson).getD .null).Legible := by
    cases artifact.constructor with
    | none => trivial
    | some choice => exact choice.legible_toJson
  simp [Artifact.toJson, Legible, LegibleFields, legibleItems_iff, hconstructor,
    Step.legible_toJson]

/-! ## What the decoders answer -/

/-- A list is decoded if each of its items is. -/
theorem Json.Decoder.list_outline {β : Type} {decoder : Decoder β} {toJson : β → Json}
    (data : List β) (h : ∀ x ∈ data, decoder (toJson x).outline = .ok x) :
    Decoder.list decoder (Json.array (data.map toJson)).outline = .ok data := by
  have hitems : (outlines (data.map toJson)).mapM decoder = .ok data := by
    rw [outlines_eq_map, List.map_map, mapM_eq_ok_iff, List.forall₂_map_left_iff,
      List.forall₂_same]
    exact h
  simp only [outline, Decoder.list, hitems]
  rfl

theorem ValueType.decoder_outline (type : ValueType) :
    ValueType.decoder type.toJson.outline = .ok type := by
  cases type with
  | scalar s => cases s <;> rfl
  | value => rfl
  | object typeName => rfl

theorem MemberKind.decoder_word (kind : MemberKind) :
    MemberKind.decoder (.string (some kind.word)) = .ok kind := by
  cases kind <;> rfl

theorem Artifact.index_outline {index : Nat} (h : index < UInt64.size) :
    Decoder.index (Artifact.indexJson index).outline = .ok index := by
  have hword : (UInt64.ofNat index).toNat = index := UInt64.toNat_ofNat_of_lt' h
  simp [Artifact.indexJson, outline, Decoder.index, JsonNumber.ofNatural, hword]

theorem Step.decoder_outline {step : Step} (h : step.index < UInt64.size) :
    Step.decoder step.toJson.outline = .ok step := by
  have hindex := Artifact.index_outline h
  have hkind := step.kind.decoder_word
  have htype := step.type.decoder_outline
  simp only [Step.toJson, outline, fieldOutlines, Step.decoder, Decoder.fields,
    Step.Draft.field, Decoder.once, hindex, hkind, htype]
  rfl

theorem ConstructorChoice.decoder_outline {choice : ConstructorChoice}
    (h : choice.index < UInt64.size) :
    ConstructorChoice.decoder choice.toJson.outline = .ok choice := by
  have hindex := Artifact.index_outline h
  have htypes := Decoder.list_outline choice.types fun type _ => type.decoder_outline
  simp only [outline] at htypes
  simp only [ConstructorChoice.toJson, outline, fieldOutlines, ConstructorChoice.decoder,
    Decoder.fields, ConstructorChoice.Draft.field, Decoder.once, hindex, htypes]
  rfl

namespace Artifact

/-- All places that an artifact names fit a machine word. -/
structure Addressable (artifact : Artifact) : Prop where
  constructor : ∀ choice, artifact.constructor = some choice → choice.index < UInt64.size
  fill : ∀ step ∈ artifact.fill, step.index < UInt64.size
  extract : ∀ step ∈ artifact.extract, step.index < UInt64.size

/-- An absent constructor is written as null and is read as absent. -/
theorem option_constructor_outline {constructor : Option ConstructorChoice}
    (h : ∀ choice, constructor = some choice → choice.index < UInt64.size) :
    Decoder.option ConstructorChoice.decoder
      ((constructor.map ConstructorChoice.toJson).getD .null).outline = .ok constructor := by
  cases constructor with
  | none => rfl
  | some choice =>
    have hchoice := choice.decoder_outline (h choice rfl)
    change (ConstructorChoice.decoder choice.toJson.outline).map some = _
    rw [hchoice]
    rfl

theorem decoder_outline {artifact : Artifact} (h : artifact.Addressable) :
    decoder artifact.toJson.outline = .ok artifact := by
  have hconstructor := option_constructor_outline h.constructor
  have hfill := Decoder.list_outline artifact.fill fun step hs =>
    step.decoder_outline (h.fill step hs)
  have hextract := Decoder.list_outline artifact.extract fun step hs =>
    step.decoder_outline (h.extract step hs)
  simp only [outline] at hfill hextract
  simp only [toJson, outline, fieldOutlines, decoder, Decoder.fields, Draft.field,
    Decoder.once, hconstructor, hfill, hextract]
  rfl

/-- What stands in the bytes of an artifact is decoded as it stands in its tree. -/
theorem decode_toBytes {artifact : Artifact} (h : artifact.Addressable) :
    Json.decode decoder (Json.symbols artifact.toBytes) = .ok artifact := by
  unfold toBytes text
  rw [symbols_toUTF8, decode_text decoder artifact.legible_toJson, decoder_outline h]

theorem ofSymbols_toBytes {artifact : Artifact} (h : artifact.Addressable) :
    ofSymbols (Json.symbols artifact.toBytes) = .ok artifact := by
  unfold ofSymbols
  rw [decode_toBytes h]
  rfl

/-- **An artifact comes back from its bytes**, whatever characters its texts hold and
however many steps and types it has. -/
theorem ofBytes_toBytes (artifact : Artifact) (h : artifact.Addressable) :
    ofBytes artifact.toBytes = .ok artifact := by
  unfold ofBytes
  exact ofSymbols_toBytes h

/-- An artifact with quotes, controls and empty texts, and with the greatest place. -/
theorem ofBytes_toBytes_hostile :
    let artifact : Artifact := {
      name := "\"\\/\n\r\t\x00\x1f\x7f"
      typePath := ""
      resolver := "é😀 $"
      constructor := some ⟨UInt64.size - 1, [.scalar .i8, .value, .object "\"", .object ""]⟩
      fill := [⟨UInt64.size - 1, "", "\\u0000", .setter, .object "Vec<u8>", true⟩]
      extract := [⟨0, "p", "getP", .getter, .scalar .char, false⟩,
        ⟨1, "p", "p", .field, .value, true⟩] }
    artifact.Addressable ∧ ofBytes artifact.toBytes = .ok artifact := by
  intro artifact
  have h : artifact.Addressable :=
    ⟨fun choice hc => by cases hc; decide, by decide, by decide⟩
  exact ⟨h, ofBytes_toBytes artifact h⟩

end Artifact
end PropertyBinding
