import PropertyBinding.JsonObject
import PropertyBinding.Proofs.TreeText

/-! # Objects are parsed back from their text

Parsing adds two demands to those of scanning: arrays and objects stand at most
`Json.maxDepth` deep, and an object's fields come out in the order of their names, which
is how a written tree has them (`Json.Nested`).  A tree that meets both is parsed back from
its text (`Json.parse?_text`).

`Value.Textual` says of a value that its tree is of this kind and leads back to it: it
holds no float and no bytes, and is nested at most so deep.
-/
namespace PropertyBinding
namespace Json

/-- Arrays and objects stand at most `levels` deep, and the fields of every object in the
order of their names. -/
inductive Nested : Nat → Json → Prop
  | null (levels : Nat) : Nested levels .null
  | bool (levels : Nat) (b : Bool) : Nested levels (.bool b)
  | number (levels : Nat) (n : JsonNumber) : Nested levels (.number n)
  | string (levels : Nat) (s : String) : Nested levels (.string s)
  | array {levels : Nat} {items : List Json} (h : ∀ item ∈ items, Nested levels item) :
      Nested (levels + 1) (.array items)
  | object {levels : Nat} {fields : List (String × Json)} (sorted : Entries.Sorted fields)
      (h : ∀ field ∈ fields, Nested levels field.2) : Nested (levels + 1) (.object fields)

namespace Outline

variable {levels : Nat}

theorem trees?_outlines {items : List Json}
    (h : ∀ item ∈ items, tree? levels item.outline = some item) :
    trees? levels (outlines items) = some items := by
  induction items with
  | nil => rfl
  | cons item rest ih =>
    rw [outlines, trees?, h item List.mem_cons_self,
      ih fun other ho => h other (List.mem_cons_of_mem _ ho)]
    rfl

theorem fields?_fieldOutlines {fields : List (String × Json)}
    (h : ∀ field ∈ fields, tree? levels field.2.outline = some field.2) :
    fields? levels (fieldOutlines fields) = some fields := by
  induction fields with
  | nil => rfl
  | cons field rest ih =>
    obtain ⟨name, json⟩ := field
    rw [fieldOutlines, fields?, h (name, json) List.mem_cons_self,
      ih fun other ho => h other (List.mem_cons_of_mem _ ho)]
    rfl

end Outline

/-- The outline of a tree has the tree, if it is not nested too deep. -/
theorem Nested.tree?_outline {levels : Nat} {json : Json} (h : Nested levels json) :
    json.outline.tree? levels = some json := by
  induction h with
  | null | bool | number | string => rfl
  | array _ ih =>
    rw [outline, Outline.tree?, Outline.trees?_outlines ih]
    rfl
  | object sorted _ ih =>
    rw [outline, Outline.tree?, Outline.fields?_fieldOutlines ih, Option.map_some,
      Entries.ofList_of_sorted sorted]

/-- **A tree is parsed back from its text.** -/
theorem parse?_text {json : Json} (legible : json.Legible) (nested : Nested maxDepth json) :
    parse? json.text = some json := by
  unfold parse?
  rw [scan_chars legible]
  exact nested.tree?_outline

end Json

/-! ## Values that text can carry -/

/-- A value without floats and bytes in which arrays and maps stand at most `depth` deep;
as in every value, the entries of a map stand in the order of their keys. -/
inductive Value.Textual : Nat → Value → Prop
  | null (depth : Nat) : Textual depth .null
  | bool (depth : Nat) (b : Bool) : Textual depth (.bool b)
  | integer (depth : Nat) (i : Int64) : Textual depth (.integer i)
  | string (depth : Nat) (s : String) : Textual depth (.string s)
  | array {depth : Nat} {items : List Value} (h : ∀ item ∈ items, Textual depth item) :
      Textual (depth + 1) (.array items)
  | map {depth : Nat} {entries : List (String × Value)} (sorted : Entries.Sorted entries)
      (h : ∀ entry ∈ entries, Textual depth entry.2) : Textual (depth + 1) (.map entries)

namespace Value.Textual

variable {depth : Nat} {value : Value}

/-- Its numbers are integers, which are read back from their text. -/
theorem legible (h : value.Textual depth) : (Json.ofValue value).Legible := by
  induction h with
  | null | bool | string => trivial
  | integer depth i => exact Json.JsonNumber.legible_integer _
  | array _ ih =>
    show Json.LegibleItems (Json.ofItems _)
    rw [Json.ofItems_eq_map, Json.legibleItems_iff]
    intro item hi
    obtain ⟨value, hv, rfl⟩ := List.mem_map.mp hi
    exact ih value hv
  | map _ _ ih =>
    show Json.LegibleFields (Json.ofEntries _)
    rw [Json.ofEntries_eq_mapValues, Json.legibleFields_iff]
    intro field hf
    obtain ⟨entry, he, rfl⟩ := List.mem_map.mp hf
    exact ih entry he

/-- The tree is nested as deep as the value. -/
theorem nested (h : value.Textual depth) : (Json.ofValue value).Nested depth := by
  induction h with
  | null depth => exact .null depth
  | bool depth b => exact .bool depth b
  | integer depth i => exact .number depth _
  | string depth s => exact .string depth s
  | array _ ih =>
    rw [Json.ofValue, Json.ofItems_eq_map]
    refine .array fun item hi => ?_
    obtain ⟨value, hv, rfl⟩ := List.mem_map.mp hi
    exact ih value hv
  | map sorted _ ih =>
    rw [Json.ofValue, Json.ofEntries_eq_mapValues]
    refine .object (sorted.mapValues _) fun field hf => ?_
    obtain ⟨entry, he, rfl⟩ := List.mem_map.mp hf
    exact ih entry he

theorem insert {entries : List (String × Value)}
    (hentries : (Value.map entries).Textual (depth + 1)) (property : String)
    (h : value.Textual depth) :
    (Value.map (Entries.insert entries property value)).Textual (depth + 1) := by
  cases hentries with
  | map sorted hall =>
    refine .map (Entries.sorted_insert sorted property value) fun entry he => ?_
    rcases Entries.mem_insert he with rfl | he
    · exact h
    · exact hall entry he

/-- The tree of the value leads back to it. -/
theorem ofJson_ofValue (h : value.Textual depth) : Value.ofJson (Json.ofValue value) = value := by
  induction h with
  | null | bool | string => rfl
  | integer depth i =>
    simp only [Json.ofValue, Value.ofJson, Value.ofNumber, JsonNumber.asInteger?_ofInteger]
  | @array depth items _ ih =>
    have back : (items.map Json.ofValue).map Value.ofJson = items := by
      rw [List.map_map]
      exact (List.map_congr_left ih).trans (List.map_id items)
    rw [Json.ofValue, Value.ofJson, Json.ofItems_eq_map, Value.ofItems_eq_map, back]
  | map _ _ ih =>
    rw [Json.ofValue, Value.ofJson, Json.ofEntries_eq_mapValues, Value.ofFields_eq_mapValues,
      Entries.mapValues_mapValues_eq_self ih]

end Value.Textual

/-! ## Objects that hold the trees of entries -/

namespace JsonObject

/-- The object that holds the trees of entries. -/
def ofEntries (entries : List (String × Value)) : JsonObject where
  fields := Entries.mapValues Json.ofValue entries

theorem put_ofEntries (entries : List (String × Value)) (property : String) (value : Value) :
    (ofEntries entries).put property (Json.ofValue value) =
      ofEntries (Entries.insert entries property value) := by
  unfold put ofEntries
  rw [Entries.mapValues_insert]

/-- Absent properties have the tree of the absent reference. -/
theorem lookup_ofEntries (entries : List (String × Value)) (property : String) :
    (ofEntries entries).lookup property =
      .ok (Json.ofValue ((Entries.get? entries property).getD .null)) := by
  unfold lookup ofEntries
  rw [Entries.get?_mapValues]
  cases Entries.get? entries property with
  | none => rfl
  | some value => rfl

/-- **An object of textual values is parsed back from its text.** -/
theorem parse_text {entries : List (String × Value)}
    (h : (Value.map entries).Textual Json.maxDepth) :
    parse (ofEntries entries).text = .ok (ofEntries entries) := by
  have htree : (ofEntries entries).toJson = Json.ofValue (.map entries) := by
    rw [Json.ofValue, Json.ofEntries_eq_mapValues]
    rfl
  unfold parse text
  rw [htree, Json.parse?_text h.legible h.nested, ← htree]
  rfl

end JsonObject

end PropertyBinding
