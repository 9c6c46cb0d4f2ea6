import PropertyBinding.Codec.Point
import PropertyBinding.Member
import PropertyBinding.Proofs.Realization

/-! # Opaque data come back from the value they travel as

Data of an opaque type are written as a tree, and the tree travels as a value.  A value keeps
most trees as they are (`Json.Kept`), so that data whose tree is kept are read back from it
(`Codec.Carries.survives`); this is proved codec by codec, the composed codecs from those of
their parts.

What a value does not keep is an integer beyond the signed words, which it turns into a double.
An unsigned word comes back exactly if it fits a signed one (`Codec.survives_extraction`).
-/
namespace PropertyBinding

variable {α β γ : Type}

/-! ## Trees that a value keeps -/

/-- A number that fits no signed word becomes a double. -/
theorem Value.ofNumber_of_asInteger?_eq_none {n : JsonNumber} (h : n.asInteger? = none) :
    ofNumber n = .float n.toFloat := by
  unfold ofNumber
  rw [h]

namespace Json

/-- The tree comes back from the value that it becomes. -/
def Kept (json : Json) : Prop :=
  ofValue (Value.ofJson json) = json

theorem kept_null : Kept .null := rfl

theorem kept_bool (b : Bool) : Kept (.bool b) := rfl

theorem kept_string (s : String) : Kept (.string s) := rfl

theorem kept_ofInteger (i : Int64) : Kept (.number (.ofInteger i)) := by
  simp only [Kept, Value.ofJson, Value.ofNumber, JsonNumber.asInteger?_ofInteger, ofValue]

/-- An unsigned word is kept if it fits a signed one. -/
theorem kept_ofNatural {n : UInt64} (h : n.toNat < 0x8000000000000000) :
    Kept (.number (.ofNatural n)) := by
  have hn : JsonNumber.ofNatural n = .ofInteger (Int64.ofInt n.toNat) := by
    have hi : (Int64.ofInt n.toNat).toInt = n.toNat :=
      Int64.toInt_ofInt_of_le (by omega) (by omega)
    simp only [JsonNumber.ofNatural, JsonNumber.ofInteger, hi]
  rw [hn]
  exact kept_ofInteger _

theorem kept_array {items : List Json} (h : ∀ item ∈ items, item.Kept) : Kept (.array items) := by
  have hitems : (items.map Value.ofJson).map ofValue = items := by
    rw [List.map_map]
    exact (List.map_congr_left h).trans (List.map_id items)
  simp only [Kept, Value.ofJson, ofValue, ofItems_eq_map, Value.ofItems_eq_map, hitems]

theorem kept_object {fields : List (String × Json)} (h : ∀ field ∈ fields, field.2.Kept) :
    Kept (.object fields) := by
  simp only [Kept, Value.ofJson, ofValue, ofEntries_eq_mapValues, Value.ofFields_eq_mapValues,
    Entries.mapValues_mapValues_eq_self h]

end Json

namespace Codec

/-! ## Data that are carried by a tree -/

/-- Data survive extraction: they have a value, and are read back from it. -/
def Survives (codec : Codec β) (data : β) : Prop :=
  ∃ value, codec.toValue data = .ok value ∧ codec.ofValue value = .ok data

/-- The data are written as this tree, which a value keeps, and are read back from it. -/
structure Carries (codec : Codec β) (data : β) (json : Json) : Prop where
  encode : codec.encode data = .ok json
  kept : json.Kept
  decode : codec.decode json = .ok data

theorem toValue_of_encode {codec : Codec β} {data : β} {json : Json}
    (h : codec.encode data = .ok json) : codec.toValue data = .ok (Value.ofJson json) := by
  unfold toValue
  rw [h]

theorem Carries.survives {codec : Codec β} {data : β} {json : Json}
    (h : codec.Carries data json) : codec.Survives data := by
  refine ⟨Value.ofJson json, toValue_of_encode h.encode, ?_⟩
  have hk : Json.ofValue (Value.ofJson json) = json := h.kept
  simp only [ofValue, hk, h.decode]

/-- An opaque member whose data survive is filled back with what was extracted. -/
theorem Survives.refills {codec : Codec β} {get : α → β} {set : α → β → α} {a : α}
    (h : codec.Survives (get a)) :
    ∃ value, codec.reader get a = .ok value ∧
      ∀ b, codec.writer set b value = (.ok (), set b (get a)) := by
  obtain ⟨value, hvalue, hback⟩ := h
  exact ⟨value, hvalue, fun b => by simp only [writer, hback]⟩

theorem carries_text (s : String) : text.Carries s (.string s) :=
  ⟨rfl, Json.kept_string s, rfl⟩

theorem carries_bool (b : Bool) : bool.Carries b (.bool b) :=
  ⟨rfl, Json.kept_bool b, rfl⟩

theorem carries_integer {name : String} {number : β → JsonNumber} {ofInt? : Int → Option β}
    {data : β} {i : { i : Int // -0x8000000000000000 ≤ i ∧ i < 0x10000000000000000 }}
    (hn : number data = .integer i) (hi : ofInt? i.val = some data)
    (hk : Json.Kept (.number (number data))) :
    (integer name number ofInt?).Carries data (.number (number data)) := by
  refine ⟨rfl, hk, ?_⟩
  rw [hn]
  simp only [integer, hi]

theorem carries_u8 (n : UInt8) : u8.Carries n (.number (.ofNatural n.toUInt64)) := by
  have hlt : n.toNat < 256 := n.toNat_lt
  refine carries_integer rfl ?_ (Json.kept_ofNatural ?_)
  · simp only [UInt8.toNat_toUInt64, Int.natCast_nonneg, true_and, Int.toNat_natCast,
      UInt8.ofNat_toNat]
    rw [if_pos (by omega)]
  · rw [UInt8.toNat_toUInt64]
    omega

theorem carries_u64 {n : UInt64} (h : n.toNat < 0x8000000000000000) :
    u64.Carries n (.number (.ofNatural n)) := by
  have hlt : n.toNat < 0x10000000000000000 := n.toNat_lt
  refine carries_integer rfl ?_ (Json.kept_ofNatural h)
  simp only [Int.natCast_nonneg, true_and, Int.toNat_natCast, UInt64.ofNat_toNat]
  rw [if_pos (by omega)]

theorem carries_i32 (i : Int32) : i32.Carries i (.number (.ofInteger i.toInt64)) := by
  refine carries_integer rfl ?_ (Json.kept_ofInteger _)
  have hle : -0x80000000 ≤ i.toInt := i.le_toInt
  have hlt : i.toInt < 0x80000000 := i.toInt_lt
  simp [hle, hlt]

theorem carries_i64 (i : Int64) : i64.Carries i (.number (.ofInteger i)) := by
  refine carries_integer rfl ?_ (Json.kept_ofInteger _)
  have hle : -0x8000000000000000 ≤ i.toInt := i.le_toInt
  have hlt : i.toInt < 0x8000000000000000 := i.toInt_lt
  simp [hle, hlt]

/-! ## Composed data -/

theorem carries_none (codec : Codec β) : codec.optional.Carries none .null :=
  ⟨rfl, Json.kept_null, rfl⟩

/-- Data that are there are told from absent ones, unless they are written as null. -/
theorem Carries.optional {codec : Codec β} {data : β} {json : Json}
    (h : codec.Carries data json) (hnull : json ≠ .null) :
    codec.optional.Carries (some data) json := by
  refine ⟨h.encode, h.kept, ?_⟩
  cases json with
  | null => exact absurd rfl hnull
  | _ => simp only [Codec.optional, h.decode, Except.map]

theorem carries_optional_text (label : Option String) :
    ∃ json, text.optional.Carries label json := by
  cases label with
  | none => exact ⟨_, carries_none text⟩
  | some s => exact ⟨_, (carries_text s).optional (by simp)⟩

/-- The trees of a list carry the list. -/
theorem carries_list {codec : Codec β} {items : List β} {jsons : List Json}
    (h : List.Forall₂ codec.Carries items jsons) : codec.list.Carries items (.array jsons) := by
  refine ⟨?_, Json.kept_array fun json hj => ?_, ?_⟩
  · have hencode : items.mapM codec.encode = .ok jsons :=
      mapM_eq_ok_iff.mpr (h.imp fun _ _ hc => hc.encode)
    simp only [list, hencode, Except.map]
  · obtain ⟨data, -, hc⟩ := exists_mem_of_forall₂ h.flip json hj
    exact hc.kept
  · exact mapM_eq_ok_iff.mpr (h.flip.imp fun _ _ hc => hc.decode)

theorem exists_carries_list {codec : Codec β} (h : ∀ data, ∃ json, codec.Carries data json)
    (items : List β) : ∃ json, codec.list.Carries items json := by
  obtain ⟨jsons, hjsons⟩ := exists_forall₂ fun data (_ : data ∈ items) => h data
  exact ⟨_, carries_list hjsons⟩

theorem Carries.pair {first : Codec β} {second : Codec γ} {b : β} {c : γ} {json json' : Json}
    (h : first.Carries b json) (h' : second.Carries c json') :
    (first.pair second).Carries (b, c) (.array [json, json']) := by
  refine ⟨?_, Json.kept_array ?_, ?_⟩
  · simp only [Codec.pair, h.encode, h'.encode]
    rfl
  · simp [h.kept, h'.kept]
  · simp only [Codec.pair, h.decode, h'.decode]
    rfl

theorem Carries.encodeEntries {codec : Codec β} {entries : List (String × β)}
    {fields : List (String × Json)}
    (h : List.Forall₂ (fun entry field => entry.1 = field.1 ∧ codec.Carries entry.2 field.2)
      entries fields) :
    codec.encodeEntries entries = .ok fields ∧ codec.decodeEntries fields = .ok entries := by
  induction h with
  | nil => exact ⟨rfl, rfl⟩
  | @cons entry field entries fields hc _ ih =>
    obtain ⟨key, data⟩ := entry
    obtain ⟨name, json⟩ := field
    obtain ⟨hkey, hc⟩ := hc
    cases hkey
    simp only [Codec.encodeEntries, decodeEntries, hc.encode, hc.decode, ih.1, ih.2]
    exact ⟨rfl, rfl⟩

theorem exists_carries_map {codec : Codec β} (h : ∀ data, ∃ json, codec.Carries data json)
    (entries : List (String × β)) : ∃ json, codec.map.Carries entries json := by
  have hentry : ∀ entry ∈ entries, ∃ field : String × Json,
      entry.1 = field.1 ∧ codec.Carries entry.2 field.2 := by
    intro entry _
    obtain ⟨json, hc⟩ := h entry.2
    exact ⟨(entry.1, json), rfl, hc⟩
  obtain ⟨fields, hfields⟩ := exists_forall₂ hentry
  obtain ⟨hencode, hdecode⟩ := Carries.encodeEntries hfields
  refine ⟨.object fields, ?_, Json.kept_object fun field hf => ?_, hdecode⟩
  · simp only [map, hencode, Except.map]
  · obtain ⟨entry, -, -, hc⟩ := exists_mem_of_forall₂ hfields.flip field hf
    exact hc.kept

theorem exists_carries_point (point : Point) : ∃ json, Point.codec.Carries point json := by
  obtain ⟨label, hlabel⟩ := carries_optional_text point.label
  have hx := carries_i32 point.x
  have hy := carries_i32 point.y
  refine ⟨.object [("label", label), ("x", .number (.ofInteger point.x.toInt64)),
    ("y", .number (.ofInteger point.y.toInt64))], ?_, Json.kept_object ?_, ?_⟩
  · simp only [Point.codec, hx.encode, hy.encode, hlabel.encode]
    rfl
  · simp [hx.kept, hy.kept, hlabel.kept]
  · -- the fields are read in the order of their names, and all three are there
    simp only [Point.codec, Point.readFields, hx.decode, hy.decode, hlabel.decode]
    rfl

/-! ## Which data survive -/

/-- The tree of a double is no integer: it is a number of the other sort, or null. -/
theorem u64_refuses_ofFloat (f : Float) :
    ∃ refusal, u64.decode (Json.ofFloat f) = .error refusal := by
  unfold Json.ofFloat
  by_cases hf : f.isFinite = true
  · rw [dif_pos hf]
    exact ⟨_, rfl⟩
  · rw [dif_neg hf]
    exact ⟨_, rfl⟩

/-- An unsigned word beyond the signed ones becomes a double, which is not read as a word. -/
theorem u64_lost {n : UInt64} (h : 0x8000000000000000 ≤ n.toNat) :
    ∃ f message, u64.toValue n = .ok (.float f) ∧
      u64.ofValue (.float f) = .error (.decode message) := by
  have hn : (JsonNumber.ofNatural n).asInteger? = none := by
    simp only [JsonNumber.ofNatural, JsonNumber.asInteger?]
    rw [if_neg (by omega)]
  have hvalue : u64.toValue n = .ok (.float (JsonNumber.ofNatural n).toFloat) := by
    have hencode : u64.encode n = .ok (.number (.ofNatural n)) := rfl
    rw [toValue_of_encode hencode, Value.ofJson, Value.ofNumber_of_asInteger?_eq_none hn]
  obtain ⟨refusal, hrefused⟩ := u64_refuses_ofFloat (JsonNumber.ofNatural n).toFloat
  exact ⟨_, refusal.message, hvalue, by simp only [ofValue, Json.ofValue, hrefused]⟩

theorem u64_survives_iff (n : UInt64) : u64.Survives n ↔ n.toNat < 0x8000000000000000 := by
  refine ⟨fun ⟨value, hvalue, hback⟩ => ?_, fun h => (carries_u64 h).survives⟩
  by_contra hge
  obtain ⟨f, message, hfloat, hlost⟩ := u64_lost (Nat.le_of_not_lt hge)
  obtain rfl := Except.ok.inj (hvalue.symm.trans hfloat)
  rw [hlost] at hback
  cases hback

theorem survives_of_exists {codec : Codec β} (h : ∀ data, ∃ json, codec.Carries data json)
    (data : β) : codec.Survives data := by
  obtain ⟨json, hc⟩ := h data
  exact hc.survives

/-- **Opaque data survive extraction.**  Bytes, lists of bytes and of texts, absent and present
texts, maps of integers, pairs, points and lists of points are read back from the value they are
extracted to, whatever they are.  An unsigned word is if it fits a signed one; a greater one
is extracted to a double, from which no word is read.  An opaque member over data that
survive is filled back with what was extracted. -/
theorem survives_extraction :
    (∀ n, u8.Survives n) ∧
    (∀ n, u64.Survives n ↔ n.toNat < 0x8000000000000000) ∧
    (∀ n : UInt64, 0x8000000000000000 ≤ n.toNat → ∃ f message,
      u64.toValue n = .ok (.float f) ∧ u64.ofValue (.float f) = .error (.decode message)) ∧
    (∀ data, u8.list.Survives data) ∧
    (∀ texts, text.list.Survives texts) ∧
    (∀ label, text.optional.Survives label) ∧
    (∀ counts, i64.map.Survives counts) ∧
    (∀ data, (i32.pair bool).Survives data) ∧
    (∀ point, Point.codec.Survives point) ∧
    (∀ points, Point.codec.list.Survives points) ∧
    ∀ (α β : Type) (codec : Codec β) (get : α → β) (set : α → β → α) (a : α),
      codec.Survives (get a) → ∃ value, codec.reader get a = .ok value ∧
        ∀ b, codec.writer set b value = (.ok (), set b (get a)) := by
  have hu8 : ∀ n, ∃ json, u8.Carries n json := fun n => ⟨_, carries_u8 n⟩
  have htext : ∀ s, ∃ json, text.Carries s json := fun s => ⟨_, carries_text s⟩
  have hi64 : ∀ i, ∃ json, i64.Carries i json := fun i => ⟨_, carries_i64 i⟩
  exact ⟨fun n => (carries_u8 n).survives, u64_survives_iff, fun n => u64_lost,
    survives_of_exists (exists_carries_list hu8),
    survives_of_exists (exists_carries_list htext),
    survives_of_exists carries_optional_text,
    survives_of_exists (exists_carries_map hi64),
    fun data => ((carries_i32 data.1).pair (carries_bool data.2)).survives,
    survives_of_exists exists_carries_point,
    survives_of_exists (exists_carries_list exists_carries_point),
    fun _ _ _ _ _ _ h => h.refills⟩

/-- The greatest signed word fills another member back, and the next word has no way back. -/
theorem survives_extraction_words :
    (∃ value, u64.reader Prod.fst ((0x7FFFFFFFFFFFFFFF : UInt64), true) = .ok value ∧
      ∀ b : UInt64 × Bool, u64.writer (fun a n => (n, a.2)) b value =
        (.ok (), ((0x7FFFFFFFFFFFFFFF : UInt64), b.2))) ∧
    ∃ f message, u64.toValue 0x8000000000000000 = .ok (.float f) ∧
      u64.ofValue (.float f) = .error (.decode message) := by
  obtain ⟨-, survives, lost, -, -, -, -, -, -, -, refills⟩ := survives_extraction
  constructor
  · exact refills (UInt64 × Bool) UInt64 u64 Prod.fst (fun a n => (n, a.2)) (_, true)
      ((survives _).mpr (by decide))
  · exact lost _ (by decide)

/-- The greatest word does not survive. -/
theorem greatest_word_lost : ¬u64.Survives 0xFFFFFFFFFFFFFFFF := by
  intro h
  exact absurd ((u64_survives_iff _).mp h) (by decide)

end Codec
end PropertyBinding
