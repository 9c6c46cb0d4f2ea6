import PropertyBinding.Proofs.Base64Text
import PropertyBinding.Proofs.OpaqueData
import PropertyBinding.Proofs.WordFloats

/-! # What a change between values and trees loses

A value and the tree of it hold almost the same.  A tree has no place for bytes and for
numbers that are not finite (`Value.settled`), a value has none for integers beyond the signed
words (`Json.rounded`).  Nothing else is lost, at any depth, in either direction.

`Base64.standard_iff` says which text stands for bytes, and `isFinite_toFloat` that an integer
that has become a double is a number again.
-/
namespace PropertyBinding

/-! ## Induction over values and trees -/

/-- What holds of the leaves, and of arrays and maps if it holds of all that they contain,
holds of every value. -/
@[elab_as_elim]
theorem Value.tree_induction {motive : Value → Prop} (null : motive .null)
    (bool : ∀ b, motive (.bool b)) (integer : ∀ i, motive (.integer i))
    (float : ∀ f, motive (.float f)) (string : ∀ s, motive (.string s))
    (bytes : ∀ data, motive (.bytes data))
    (array : ∀ items, (∀ item ∈ items, motive item) → motive (.array items))
    (map : ∀ entries, (∀ entry ∈ entries, motive entry.2) → motive (.map entries))
    (value : Value) : motive value :=
  @Value.rec motive (fun items => ∀ item ∈ items, motive item)
    (fun entries => ∀ entry ∈ entries, motive entry.2) (fun entry => motive entry.2)
    null bool integer float string bytes array map
    (fun _ h => nomatch h) (fun _ _ hitem hrest => List.forall_mem_cons.mpr ⟨hitem, hrest⟩)
    (fun _ h => nomatch h) (fun _ _ hentry hrest => List.forall_mem_cons.mpr ⟨hentry, hrest⟩)
    (fun _ _ hvalue => hvalue) value

/-- What holds of the leaves, and of arrays and objects if it holds of all that they contain,
holds of every tree. -/
@[elab_as_elim]
theorem Json.tree_induction {motive : Json → Prop} (null : motive .null)
    (bool : ∀ b, motive (.bool b)) (number : ∀ n, motive (.number n))
    (string : ∀ s, motive (.string s))
    (array : ∀ items, (∀ item ∈ items, motive item) → motive (.array items))
    (object : ∀ fields, (∀ field ∈ fields, motive field.2) → motive (.object fields))
    (json : Json) : motive json :=
  @Json.rec motive (fun items => ∀ item ∈ items, motive item)
    (fun fields => ∀ field ∈ fields, motive field.2) (fun field => motive field.2)
    null bool number string array object
    (fun _ h => nomatch h) (fun _ _ hitem hrest => List.forall_mem_cons.mpr ⟨hitem, hrest⟩)
    (fun _ h => nomatch h) (fun _ _ hfield hrest => List.forall_mem_cons.mpr ⟨hfield, hrest⟩)
    (fun _ _ hjson => hjson) json

/-! ## Values without bytes and without infinities -/

namespace Value

mutual

/-- The value with the Base64 text of all bytes in it instead of these, and with null instead
of the numbers that are not finite. -/
def settled : Value → Value
  | .null => .null
  | .bool b => .bool b
  | .integer i => .integer i
  | .float f => if f.isFinite then .float f else .null
  | .string s => .string s
  | .bytes data => .string (Base64.encode data)
  | .array items => .array (settledItems items)
  | .map entries => .map (settledEntries entries)

/-- Item by item, in order. -/
def settledItems : List Value → List Value
  | [] => []
  | item :: rest => settled item :: settledItems rest

/-- Entry by entry, in order and under the same keys. -/
def settledEntries : List (String × Value) → List (String × Value)
  | [] => []
  | (key, value) :: rest => (key, settled value) :: settledEntries rest

end

theorem settledItems_eq_map (items : List Value) : settledItems items = items.map settled := by
  induction items with
  | nil => rfl
  | cons item rest ih => rw [settledItems, ih, List.map_cons]

theorem settledEntries_eq_mapValues (entries : List (String × Value)) :
    settledEntries entries = Entries.mapValues settled entries := by
  induction entries with
  | nil => rfl
  | cons entry rest ih =>
    rw [settledEntries, ih]
    rfl

theorem ofJson_ofFloat (f : Float) :
    ofJson (Json.ofFloat f) = if f.isFinite then .float f else .null := by
  unfold Json.ofFloat
  by_cases hf : f.isFinite = true
  · rw [dif_pos hf, if_pos hf]
    rfl
  · rw [dif_neg hf, if_neg hf]
    rfl

/-- A value comes back from its tree settled. -/
theorem ofJson_ofValue_eq_settled (value : Value) :
    ofJson (Json.ofValue value) = value.settled := by
  induction value using tree_induction with
  | null | bool | string | bytes => rfl
  | integer i =>
    simp only [Json.ofValue, ofJson, ofNumber, JsonNumber.asInteger?_ofInteger, settled]
  | float f => rw [Json.ofValue, ofJson_ofFloat, settled]
  | array items ih =>
    rw [Json.ofValue, ofJson, settled, Json.ofItems_eq_map, ofItems_eq_map, settledItems_eq_map,
      List.map_map]
    exact congrArg Value.array (List.map_congr_left ih)
  | map entries ih =>
    rw [Json.ofValue, ofJson, settled, Json.ofEntries_eq_mapValues, ofFields_eq_mapValues,
      settledEntries_eq_mapValues, Entries.mapValues_mapValues ih]

/-- There is nothing left to settle. -/
theorem settled_settled (value : Value) : value.settled.settled = value.settled := by
  induction value using tree_induction with
  | null | bool | integer | string | bytes => rfl
  | float f =>
    by_cases hf : f.isFinite = true
    · simp only [settled, hf, if_true]
    · simp only [settled, hf]
      rfl
  | array items ih =>
    rw [settled, settled, settledItems_eq_map, settledItems_eq_map, List.map_map]
    exact congrArg Value.array (List.map_congr_left ih)
  | map entries ih =>
    rw [settled, settled, settledEntries_eq_mapValues, settledEntries_eq_mapValues,
      Entries.mapValues_mapValues ih]

theorem compare_self_of_isFinite {f : Float.Model.UnpackedFloat} (h : f.isFinite = true) :
    f.compare f = some .eq := by
  cases f with
  | notANumber | infinity => cases h
  | zero => rfl
  | finite sign mantissa exponent positive =>
    have hsame : (compare exponent exponent).then (compare mantissa mantissa) = .eq := by
      simp [Ordering.then]
    cases sign with
    | positive => exact congrArg some hsame
    | negative => exact congrArg (fun order => some order.swap) hsame

/-- A finite number equals itself. -/
theorem beq_self_of_isFinite {f : Float} (h : f.isFinite = true) : (f == f) = true := by
  change (f.toModel.unpack.compare f.toModel.unpack == some .eq) = true
  rw [compare_self_of_isFinite h]
  rfl

theorem sameItems_self {items : List Value} (h : ∀ item ∈ items, same item item = true) :
    sameItems items items = true := by
  induction items with
  | nil => rfl
  | cons item rest ih =>
    obtain ⟨hitem, hrest⟩ := List.forall_mem_cons.mp h
    rw [sameItems, hitem, ih hrest]
    rfl

theorem sameEntries_self {entries : List (String × Value)}
    (h : ∀ entry ∈ entries, same entry.2 entry.2 = true) : sameEntries entries entries = true := by
  induction entries with
  | nil => rfl
  | cons entry rest ih =>
    obtain ⟨hentry, hrest⟩ := List.forall_mem_cons.mp h
    rw [sameEntries, hentry, ih hrest, beq_self_eq_true]
    rfl

/-- A settled value holds no number that differs from itself. -/
theorem same_settled (value : Value) : same value.settled value.settled = true := by
  induction value using tree_induction with
  | null => rfl
  | bool b => exact beq_self_eq_true b
  | integer i => exact beq_self_eq_true i
  | float f =>
    rw [settled]
    by_cases hf : f.isFinite = true
    · rw [if_pos hf]
      exact beq_self_of_isFinite hf
    · rw [if_neg hf]
      rfl
  | string s => exact beq_self_eq_true s
  | bytes data => exact beq_self_eq_true (Base64.encode data)
  | array items ih =>
    rw [settled, settledItems_eq_map]
    exact sameItems_self (List.forall_mem_map.mpr ih)
  | map entries ih =>
    rw [settled, settledEntries_eq_mapValues]
    exact sameEntries_self (List.forall_mem_map.mpr ih)

end Value

/-! ## Trees without integers beyond the signed words -/

/-- The number, with the nearest double instead of an integer beyond the signed words. -/
def JsonNumber.rounded : JsonNumber → JsonNumber
  | .integer i =>
    if i.val < 0x8000000000000000 then .integer i
    else .float ⟨(UInt64.ofNat i.val.toNat).toFloat, isFinite_toFloat _⟩
  | .float f => .float f

namespace Json

mutual

/-- The tree with all its numbers rounded. -/
def rounded : Json → Json
  | .null => .null
  | .bool b => .bool b
  | .number n => .number n.rounded
  | .string s => .string s
  | .array items => .array (roundedItems items)
  | .object fields => .object (roundedFields fields)

/-- Item by item, in order. -/
def roundedItems : List Json → List Json
  | [] => []
  | item :: rest => rounded item :: roundedItems rest

/-- Field by field, in order and under the same names. -/
def roundedFields : List (String × Json) → List (String × Json)
  | [] => []
  | (key, json) :: rest => (key, rounded json) :: roundedFields rest

end

/-- A number stands somewhere in a tree. -/
inductive Has (n : JsonNumber) : Json → Prop
  | number : Has n (.number n)
  | array {items : List Json} {item : Json} (mem : item ∈ items) (h : Has n item) :
      Has n (.array items)
  | object {fields : List (String × Json)} {field : String × Json} (mem : field ∈ fields)
      (h : Has n field.2) : Has n (.object fields)

theorem roundedItems_eq_map (items : List Json) : roundedItems items = items.map rounded := by
  induction items with
  | nil => rfl
  | cons item rest ih => rw [roundedItems, ih, List.map_cons]

theorem roundedFields_eq_mapValues (fields : List (String × Json)) :
    roundedFields fields = Entries.mapValues rounded fields := by
  induction fields with
  | nil => rfl
  | cons field rest ih =>
    rw [roundedFields, ih]
    rfl

theorem ofFloat_of_isFinite {f : Float} (h : f.isFinite = true) :
    ofFloat f = .number (.float ⟨f, h⟩) :=
  dif_pos h

theorem ofValue_ofNumber (n : JsonNumber) : ofValue (Value.ofNumber n) = .number n.rounded := by
  cases n with
  | float f => exact ofFloat_of_isFinite f.property
  | integer i =>
    by_cases hi : i.val < 0x8000000000000000
    · have hback : (Int64.ofInt i.val).toInt = i.val :=
        Int64.toInt_ofInt_of_le (by omega) (by omega)
      simp only [Value.ofNumber, JsonNumber.asInteger?, JsonNumber.rounded, if_pos hi, ofValue,
        JsonNumber.ofInteger, hback]
    · have hnone : (JsonNumber.integer i).asInteger? = none := if_neg hi
      have hfloat : (JsonNumber.integer i).toFloat = (UInt64.ofNat i.val.toNat).toFloat :=
        if_pos (by omega)
      rw [Value.ofNumber_of_asInteger?_eq_none hnone, hfloat, ofValue,
        ofFloat_of_isFinite (isFinite_toFloat _), JsonNumber.rounded, if_neg hi]

/-- A tree comes back from its value rounded. -/
theorem ofValue_ofJson_eq_rounded (json : Json) : ofValue (Value.ofJson json) = json.rounded := by
  induction json using tree_induction with
  | null | bool | string => rfl
  | number n => exact ofValue_ofNumber n
  | array items ih =>
    rw [Value.ofJson, ofValue, rounded, Value.ofItems_eq_map, ofItems_eq_map, roundedItems_eq_map,
      List.map_map]
    exact congrArg Json.array (List.map_congr_left ih)
  | object fields ih =>
    rw [Value.ofJson, ofValue, rounded, Value.ofFields_eq_mapValues, ofEntries_eq_mapValues,
      roundedFields_eq_mapValues, Entries.mapValues_mapValues ih]

theorem rounded_number_iff (n : JsonNumber) :
    n.rounded = n ↔ ∀ i, n = .integer i → i.val < 0x8000000000000000 := by
  cases n with
  | float f => exact iff_of_true rfl fun _ h => nomatch h
  | integer i =>
    by_cases hi : i.val < 0x8000000000000000
    · refine iff_of_true (if_pos hi) fun other hsame => ?_
      rw [← JsonNumber.integer.inj hsame]
      exact hi
    · refine iff_of_false (fun hsame => ?_) fun h => hi (h i rfl)
      rw [JsonNumber.rounded, if_neg hi] at hsame
      cases hsame

theorem sameItems_self {items : List Json} (h : ∀ item ∈ items, same item item = true) :
    sameItems items items = true := by
  induction items with
  | nil => rfl
  | cons item rest ih =>
    obtain ⟨hitem, hrest⟩ := List.forall_mem_cons.mp h
    rw [sameItems, hitem, ih hrest]
    rfl

theorem sameFields_self {fields : List (String × Json)}
    (h : ∀ field ∈ fields, same field.2 field.2 = true) : sameFields fields fields = true := by
  induction fields with
  | nil => rfl
  | cons field rest ih =>
    obtain ⟨hfield, hrest⟩ := List.forall_mem_cons.mp h
    rw [sameFields, hfield, ih hrest, beq_self_eq_true]
    rfl

/-- The numbers of a tree are finite, so that none differs from itself. -/
theorem same_self (json : Json) : same json json = true := by
  induction json using tree_induction with
  | null => rfl
  | bool b => exact beq_self_eq_true b
  | number n =>
    cases n with
    | integer i => exact beq_self_eq_true i
    | float f => exact Value.beq_self_of_isFinite f.property
  | string s => exact beq_self_eq_true s
  | array items ih => exact sameItems_self ih
  | object fields ih => exact sameFields_self ih

theorem map_eq_self_iff {α : Type} {f : α → α} {items : List α} :
    items.map f = items ↔ ∀ item ∈ items, f item = item := by
  have hid := List.map_inj_left (l := items) (f := f) (g := id)
  rwa [List.map_id] at hid

/-- A tree is left as it is if no integer in it is beyond the signed words. -/
theorem rounded_eq_self_iff (json : Json) :
    json.rounded = json ↔ ∀ i, json.Has (.integer i) → i.val < 0x8000000000000000 := by
  induction json using tree_induction with
  | null | bool | string => exact iff_of_true rfl fun _ h => nomatch h
  | number n =>
    rw [rounded, Json.number.injEq, rounded_number_iff]
    constructor
    · rintro h i ⟨⟩
      exact h i rfl
    · rintro h i rfl
      exact h i .number
  | array items ih =>
    rw [rounded, roundedItems_eq_map, Json.array.injEq, map_eq_self_iff]
    constructor
    · rintro h i (_ | ⟨hmem, hhas⟩)
      exact (ih _ hmem).mp (h _ hmem) i hhas
    · intro h item hmem
      exact (ih item hmem).mpr fun i hhas => h i (.array hmem hhas)
  | object fields ih =>
    rw [rounded, roundedFields_eq_mapValues, Json.object.injEq, Entries.mapValues, map_eq_self_iff]
    constructor
    · rintro h i (_ | _ | ⟨hmem, hhas⟩)
      exact (ih _ hmem).mp (congrArg Prod.snd (h _ hmem)) i hhas
    · intro h field hmem
      exact Prod.ext rfl ((ih field hmem).mpr fun i hhas => h i (.object hmem hhas))

end Json

/-- **Values and trees lose nothing else on the way.**  A value comes back from its tree with
bytes as their Base64 text and with numbers that are not finite as null, and as such says the
same as itself and comes back unchanged.  The text of bytes is the only one that spells them.
A tree comes back from its value with every integer beyond the signed words as the nearest
double, and unchanged if and only if there is none in it. -/
theorem conversions_lose_nothing_else :
    (∀ value, Value.ofJson (Json.ofValue value) = value.settled ∧
      value.settled.same value.settled = true ∧ value.settled.settled = value.settled) ∧
    (∀ data text, Base64.Standard data text ↔ text = Base64.encode data) ∧
    ∀ json, Json.ofValue (Value.ofJson json) = json.rounded ∧
      json.rounded.same json.rounded = true ∧
      (Json.ofValue (Value.ofJson json) = json ↔
        ∀ i, json.Has (.integer i) → i.val < 0x8000000000000000) := by
  refine ⟨fun value => ⟨value.ofJson_ofValue_eq_settled, value.same_settled,
    value.settled_settled⟩, fun data text => Base64.standard_iff, fun json => ?_⟩
  rw [json.ofValue_ofJson_eq_rounded]
  exact ⟨rfl, json.rounded.same_self, json.rounded_eq_self_iff⟩

/-- Bytes and an infinity are settled inside a map, next to a negative zero and a whole number
that stay as they are; the first integer beyond the signed words does not come back. -/
theorem conversions_lose_bytes_and_words :
    Value.ofJson (Json.ofValue (.map [("data", .bytes [0x66]), ("list", .array
      [.float (Float.ofBits 0x7FF0000000000000), .float (-0.0), .integer 1, .float 1.0])])) =
        .map [("data", .string "Zg=="),
          ("list", .array [.null, .float (-0.0), .integer 1, .float 1.0])] ∧
    Json.ofValue (Value.ofJson (.array [.number (.ofNatural 0x8000000000000000)])) ≠
      .array [.number (.ofNatural 0x8000000000000000)] := by
  obtain ⟨hvalue, -, hjson⟩ := conversions_lose_nothing_else
  constructor
  · have hinfinite : (Float.ofBits 0x7FF0000000000000).isFinite = false := by decide +kernel
    have hzero : (-0.0 : Float).isFinite = true := by decide +kernel
    have hone : (1.0 : Float).isFinite = true := by decide +kernel
    refine (hvalue _).1.trans ?_
    simp only [Value.settled, Value.settledEntries, Value.settledItems, hinfinite, hzero, hone]
    rfl
  · intro hsame
    have hsmall := (hjson _).2.2.mp hsame _ (.array List.mem_cons_self .number)
    exact absurd hsmall (by decide)

end PropertyBinding
