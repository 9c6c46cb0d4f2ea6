import PropertyBinding.JsonObject

/-! # Typed accesses of a JSON object agree with those through values

A JSON object reads and writes scalars on the trees of its fields, without the way through
values that a store takes by default.  Both ways end alike (`JsonObject.typed_access_agrees`): a
read gives the same data, or fails with the same error, and a write leaves the same object.

Errors differ in one word where a tree and its value go by different ones (`Json.Renamed`): an
object is a map as a value, and an integer beyond the signed words a float.
-/
namespace PropertyBinding

/-! ## Integers as doubles -/

/-- An integer that is not negative has the same nearest double as an unsigned word. -/
theorem Value.nearestFloat_eq_toFloat {i : Int64} (h : 0 ≤ i.toInt) :
    nearestFloat i = (UInt64.ofNat i.toInt.toNat).toFloat := by
  have hlt : i.toInt < 0x8000000000000000 := i.toInt_lt
  have hword : ((UInt64.ofNat i.toInt.toNat).toNat : Int) = i.toInt := by
    have hfits : i.toInt.toNat < UInt64.size := by
      change i.toInt.toNat < 0x10000000000000000
      omega
    rw [UInt64.toNat_ofNat_of_lt' hfits, Int.toNat_of_nonneg h]
  simp only [nearestFloat, UInt64.toFloat, Float.Model.ofInt64, Float.Model.ofUInt64,
    Float.Model.UnpackedFloat.ofInt64, Float.Model.UnpackedFloat.ofUInt64,
    Float.Model.UnpackedFloat.ofNat, hword]

/-- A number that fits a signed word is the same double as that word. -/
theorem JsonNumber.toFloat_of_asInteger? {n : JsonNumber} {i : Int64}
    (h : n.asInteger? = some i) : n.toFloat = Value.nearestFloat i := by
  cases n with
  | float f => cases h
  | integer j =>
    obtain ⟨j, hlow, hhigh⟩ := j
    have hfits : j < 0x8000000000000000 ∧ some (Int64.ofInt j) = some i :=
      Option.ite_none_right_eq_some.mp h
    obtain ⟨hlt, hi⟩ := hfits
    cases hi
    have hj : (Int64.ofInt j).toInt = j := Int64.toInt_ofInt_of_le hlow hlt
    by_cases hneg : 0 ≤ j
    · rw [Value.nearestFloat_eq_toFloat (by rw [hj]; exact hneg), hj]
      exact if_pos hneg
    · exact if_neg hneg

/-! ## Reads -/

/-- A tree goes by the first of these words, and its value by the second. -/
inductive Json.Renamed : Json → String → String → Prop
  | object (fields : List (String × Json)) : Renamed (.object fields) "object" "map"
  | integer (i : { i : Int // -0x8000000000000000 ≤ i ∧ i < 0x10000000000000000 })
      (h : 0x8000000000000000 ≤ i.val) : Renamed (.number (.integer i)) "integer" "float"

/-- Two reads of a scalar end alike, but for the word by which an error calls the tree. -/
inductive Json.ReadsAlike (json : Json) (s : Scalar) (property : String) :
    Except Error s.Carrier → Except Error s.Carrier → Prop
  | same (result : Except Error s.Carrier) : ReadsAlike json s property result result
  | renamed {found found' : String} (h : json.Renamed found found') :
      ReadsAlike json s property (.error (s.mismatch property found))
        (.error (s.mismatch property found'))

namespace Json

variable {json : Json} {s : Scalar} {property : String}

theorem ReadsAlike.ok_iff {result result' : Except Error s.Carrier}
    (h : json.ReadsAlike s property result result') (data : s.Carrier) :
    result = .ok data ↔ result' = .ok data := by
  cases h with
  | same => rfl
  | renamed h => simp

theorem ReadsAlike.errors {error error' : Error}
    (h : json.ReadsAlike s property (.error error) (.error error')) :
    error = error' ∨ ∃ found found', error = s.mismatch property found ∧
      error' = s.mismatch property found' ∧ json.Renamed found found' := by
  cases h with
  | same => exact .inl rfl
  | renamed h => exact .inr ⟨_, _, rfl, rfl, h⟩

/-- A number that fits a signed word is read as that word. -/
theorem narrow_of_asInteger? {n : JsonNumber} {i : Int64} (h : n.asInteger? = some i) (s : Scalar)
    (property : String) :
    narrow s property (.number n) = s.narrow property (Value.ofJson (.number n)) := by
  have hvalue : Value.ofJson (.number n) = .integer i := by
    simp only [Value.ofJson, Value.ofNumber, h]
  have hkind : kind (.number n) = "integer" := by
    cases n with
    | integer j => rfl
    | float f => cases h
  have hfloat : n.toFloat = Value.nearestFloat i := JsonNumber.toFloat_of_asInteger? h
  rw [hvalue]
  unfold narrow
  cases s <;>
    simp only [narrowInteger, asNumber?, asBool?, asString?, Option.bind_some, Option.map_some, h,
      hkind, hfloat] <;>
    rfl

/-- A tree is read in place as it is through its value. -/
theorem narrow_alike (json : Json) (s : Scalar) (property : String) :
    json.ReadsAlike s property (json.narrow s property)
      (s.narrow property (Value.ofJson json)) := by
  cases json with
  | null => cases s <;> exact .same _
  | bool b => cases s <;> exact .same _
  | string text => cases s <;> exact .same _
  | array items => cases s <;> exact .same _
  | object fields => cases s <;> exact .renamed (.object fields)
  | number n =>
    cases h : n.asInteger? with
    | some i =>
      rw [narrow_of_asInteger? h]
      exact .same _
    | none =>
      have hvalue : Value.ofJson (.number n) = .float n.toFloat := by
        simp only [Value.ofJson, Value.ofNumber, h]
      rw [hvalue]
      cases n with
      | float f => cases s <;> exact .same _
      | integer i =>
        have hbig : 0x8000000000000000 ≤ i.val := by
          refine Int.not_lt.mp fun hlt => ?_
          cases h.symm.trans (if_pos hlt)
        have hwords : Renamed (.number (.integer i)) "integer" "float" := .integer i hbig
        unfold narrow
        cases s <;>
          simp only [narrowInteger, asNumber?, asBool?, asString?, Option.bind_some,
            Option.map_some, h]
        case f32 => exact .same _
        case f64 => exact .same _
        all_goals exact .renamed hwords

/-! ## Writes -/

/-- A scalar is written in place as the value that it travels as. -/
theorem ofScalar_eq (s : Scalar) (data : s.Carrier) : ofScalar s data = ofValue (s.widen data) := by
  cases s <;> rfl

end Json

/-! ## Both ways -/

namespace Scalar

theorem narrowInteger_error {s : Scalar} {type : IntegerType s.Carrier} {property : String}
    {i : Int64} {error : Error} (h : s.narrowInteger type property i = .error error) :
    ∃ found, error = s.mismatch property found := by
  unfold narrowInteger at h
  split at h
  · cases h
  · cases h
    exact ⟨_, rfl⟩

theorem narrowFloat_error {property : String} {f : Float} {error : Error}
    (h : narrowFloat property f = .error error) : ∃ found, error = f32.mismatch property found := by
  unfold narrowFloat at h
  simp only at h
  split at h
  · cases h
    exact ⟨_, rfl⟩
  · cases h

theorem onlyChar_error {property text : String} {error : Error}
    (h : onlyChar property text = .error error) :
    ∃ found, error = char.mismatch property found := by
  unfold onlyChar at h
  split at h
  · cases h
  · cases h
    exact ⟨_, rfl⟩

/-- What is not read as a scalar is a conversion error of the property. -/
theorem narrow_error {s : Scalar} {property : String} {value : Value} {error : Error}
    (h : s.narrow property value = .error error) : ∃ found, error = s.mismatch property found := by
  unfold narrow at h
  split at h
  case h_1 | h_2 | h_3 | h_4 => exact narrowInteger_error h
  case h_5 | h_6 => exact narrowFloat_error h
  case h_10 => exact onlyChar_error h
  case h_12 =>
    cases h
    exact ⟨_, rfl⟩
  all_goals cases h

end Scalar

/-- The source of JSON objects that reads scalars by the way through values. -/
def Source.jsonThroughValues : Source JsonObject :=
  .ofReadValue Source.json.readValue

namespace JsonObject

/-- Only a strict object has no tree for a property. -/
theorem lookup_error {object : JsonObject} {property : String} {error : Error}
    (h : object.lookup property = .error error) : error = .missing property := by
  unfold lookup at h
  split at h
  · cases h
  · split at h
    · cases h
      rfl
    · cases h

/-- **The typed accesses of a JSON object agree with those through values.**  A read gives the
same data; if it fails, then because a strict object has no such field, or with a conversion
error of the same type, which tells the same finding unless the tree is called otherwise as
a value.  A write leaves the same object. -/
theorem typed_access_agrees (object : JsonObject) (s : Scalar) (property : String) :
    let quick := Source.json.read s property object
    let general := Source.jsonThroughValues.read s property object
    quick.2 = object ∧ general.2 = object ∧
    (∀ data, quick.1 = .ok data ↔ general.1 = .ok data) ∧
    (∀ error error', quick.1 = .error error → general.1 = .error error' →
      (error = .missing property ∧ error' = .missing property) ∨
      ∃ json found found', object.lookup property = .ok json ∧
        error = .conversion property s.name found ∧
        error' = .conversion property s.name found' ∧
        (found = found' ∨ json.Renamed found found')) ∧
    ∀ data, Sink.json.write s property data object =
      Sink.json.writeValue property (s.widen data) object := by
  intro quick general
  have hquick : quick.1 = (object.lookup property).bind (Json.narrow s property) := rfl
  have hgeneral : general.1 =
      ((object.lookup property).map Value.ofJson).bind (s.narrow property) := rfl
  refine ⟨rfl, rfl, ?_, ?_, fun data => by simp only [Sink.json, Json.ofScalar_eq]⟩
  · intro data
    rw [hquick, hgeneral]
    cases hl : object.lookup property with
    | error error => exact Iff.intro nofun nofun
    | ok json => exact (json.narrow_alike s property).ok_iff data
  · intro error error' he he'
    rw [hquick] at he
    rw [hgeneral] at he'
    cases hl : object.lookup property with
    | error missing =>
      rw [hl] at he he'
      cases he
      cases he'
      exact .inl ⟨lookup_error hl, lookup_error hl⟩
    | ok json =>
      rw [hl] at he he'
      have halike := json.narrow_alike s property
      change json.narrow s property = .error error at he
      change s.narrow property (Value.ofJson json) = .error error' at he'
      rw [he, he'] at halike
      rcases halike.errors with rfl | ⟨found, found', rfl, rfl, hwords⟩
      · obtain ⟨found, rfl⟩ := Scalar.narrow_error he'
        exact .inr ⟨json, found, found, rfl, rfl, rfl, .inl rfl⟩
      · exact .inr ⟨json, found, found', rfl, rfl, rfl, .inr hwords⟩

/-- The least integer beyond the signed words is refused under two names. -/
theorem typed_access_agrees_beyond :
    let object : JsonObject :=
      { fields := [("n", .number (.integer ⟨0x8000000000000000, by decide⟩))], strict := true }
    ∃ error error', (Source.json.read .i64 "n" object).1 = .error error ∧
      (Source.jsonThroughValues.read .i64 "n" object).1 = .error error' ∧
      ((error = .missing "n" ∧ error' = .missing "n") ∨
      ∃ json found found', object.lookup "n" = .ok json ∧
        error = .conversion "n" "i64" found ∧ error' = .conversion "n" "i64" found' ∧
        (found = found' ∨ json.Renamed found found')) := by
  intro object
  exact ⟨.conversion "n" "i64" "integer", .conversion "n" "i64" "float", rfl, rfl,
    (typed_access_agrees object .i64 "n").2.2.2.1 _ _ rfl rfl⟩

end JsonObject
end PropertyBinding
