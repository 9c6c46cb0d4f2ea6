import PropertyBinding.Store.Map
import PropertyBinding.Store.Recorded

/-! # Stores that hold the same entries answer alike

Entries in order, a hash table, a map value, the absent reference, and a pair of plain
functions over any of these: `Holds` relates each of them, in a state of its own, to the
entries it holds.  One call keeps the relation and is answered as the entries answer it
(`Holds.call`), hence so is a sequence of calls (`Holds.run`), in which a failed read
does not stop what follows.
-/
namespace PropertyBinding

/-- What a successful call hands back. -/
inductive Reply where
  | value (v : Value)
  | scalar (s : Scalar) (x : s.Carrier)
  | written

namespace Call

/-- What a call writes, and under which property; reads write nothing. -/
def written? : Call → Option (String × Value)
  | readValue _ => none
  | read _ _ => none
  | writeValue property value => some (property, value)
  | write s property data => some (property, s.widen data)

/-- How a value that has no properties words its refusal of a call. -/
def refusal (call : Call) (target : Value) : String :=
  match call.written? with
  | none => s!"cannot read property '{call.property}' from a {target.kind} value"
  | some _ => s!"cannot write property '{call.property}' into a {target.kind} value"

end Call

/-- A store that is both read and written, with the entries that its state stands for. -/
structure Store (σ : Type) where
  source : Source σ
  sink : Sink σ
  contents : σ → List (String × Value)

namespace Store

variable {σ : Type}

/-- Make one call. -/
def call (store : Store σ) (state : σ) : Call → Except Error Reply × σ
  | .readValue property => (store.source.readValue property state).map (Except.map .value) id
  | .read s property => (store.source.read s property state).map (Except.map (.scalar s)) id
  | .writeValue property value =>
    (store.sink.writeValue property value state).map (Except.map fun _ => .written) id
  | .write s property data =>
    (store.sink.write s property data state).map (Except.map fun _ => .written) id

/-- Make calls one after another, whether they succeed or not. -/
def run (store : Store σ) (state : σ) : List Call → List (Except Error Reply) × σ
  | [] => ([], state)
  | call :: rest =>
    let (answer, after) := store.call state call
    let (answers, last) := store.run after rest
    (answer :: answers, last)

/-- Entries in the order of their keys. -/
def entries : Store (List (String × Value)) where
  source := .entries
  sink := .entries
  contents := id

/-- A hash table. -/
def table : Store (Std.HashMap String Value) where
  source := .table
  sink := .table
  contents := tableEntries

/-- A single value. -/
def value : Store Value where
  source := .value
  sink := .value
  contents
    | .map fields => fields
    | _ => []

/-- The functions that read and write values in a store, taken as a store: its typed
accesses all go through them. -/
def functions (store : Store σ) : Store σ where
  source := .ofReadValue store.source.readValue
  sink := .ofWriteValue store.sink.writeValue
  contents := store.contents

/-- Every write succeeds, is read back as the value it wrote, and leaves every read of
another property as it was. -/
def WritesWell (store : Store σ) (state : σ) : Prop :=
  ∀ call property value, call.written? = some (property, value) →
    ∃ after, store.call state call = (.ok .written, after) ∧
      (store.call after (.readValue property)).1 = .ok (.value value) ∧
      ∀ read : Call, read.written? = none → read.property ≠ property →
        (store.call after read).1 = (store.call state read).1

theorem run_cons (store : Store σ) (state : σ) (call : Call) (rest : List Call) :
    store.run state (call :: rest) =
      ((store.call state call).1 :: (store.run (store.call state call).2 rest).1,
        (store.run (store.call state call).2 rest).2) := rfl

end Store

variable {σ : Type} {store : Store σ} {state : σ} {held : List (String × Value)}

namespace Store

theorem sorted_call_entries (sorted : Entries.Sorted held) (call : Call) :
    Entries.Sorted (Store.entries.call held call).2 := by
  cases call with
  | readValue property => exact sorted
  | read s property => exact sorted
  | writeValue property value => exact Entries.sorted_insert sorted property value
  | write s property data => exact Entries.sorted_insert sorted property (s.widen data)

theorem sorted_run_entries (sorted : Entries.Sorted held) (calls : List Call) :
    Entries.Sorted (Store.entries.run held calls).2 := by
  induction calls generalizing held with
  | nil => exact sorted
  | cons call rest ih => exact ih (sorted_call_entries sorted call)

/-- What a read of entries answers depends on what they hold under its property. -/
theorem call_entries_congr {others : List (String × Value)} {read : Call}
    (reads : read.written? = none)
    (same : Entries.get? others read.property = Entries.get? held read.property) :
    (Store.entries.call others read).1 = (Store.entries.call held read).1 := by
  cases read with
  | readValue property =>
    simp only [Call.property] at same
    simp only [Store.call, Store.entries, Source.entries, same, Prod.map]
  | read s property =>
    simp only [Call.property] at same
    simp only [Store.call, Store.entries, Source.entries, same, Prod.map]
  | writeValue property value => cases reads
  | write s property data => cases reads

/-- A write puts its value into the entries. -/
theorem call_entries_of_written {call : Call} {property : String} {value : Value}
    (writes : call.written? = some (property, value)) :
    Store.entries.call held call = (.ok .written, Entries.insert held property value) := by
  cases call with
  | readValue _ => cases writes
  | read _ _ => cases writes
  | writeValue _ _ => cases writes; rfl
  | write _ _ _ => cases writes; rfl

/-- A value that is neither the absent reference nor a map answers no call. -/
theorem call_value_of_neither {target : Value} (not_null : target.isNull = false)
    (not_map : target.isMap = false) (call : Call) :
    Store.value.call target call = (.error (.other (call.refusal target)), target) := by
  have reads : ∀ property, Source.value.readValue property target =
      (.error (.other s!"cannot read property '{property}' from a {target.kind} value"),
        target) := by
    intro property
    cases target with
    | null => cases not_null
    | map fields => cases not_map
    | _ => rfl
  have writes : ∀ property value, Sink.value.writeValue property value target =
      (.error (.other s!"cannot write property '{property}' into a {target.kind} value"),
        target) := by
    intro property value
    have refused := (Value.insert?_eq_none_iff target property value).2 ⟨not_null, not_map⟩
    simp only [Sink.value, refused]
  cases call with
  | readValue property =>
    show (Source.value.readValue property target).map _ id = _
    rw [reads]
    rfl
  | read s property =>
    show Prod.map _ id (((Source.value.readValue property target).1.bind (s.narrow property)),
      (Source.value.readValue property target).2) = _
    rw [reads]
    rfl
  | writeValue property value =>
    show (Sink.value.writeValue property value target).map _ id = _
    rw [writes]
    rfl
  | write s property data =>
    show (Sink.value.writeValue property (s.widen data) target).map _ id = _
    rw [writes]
    rfl

theorem run_value_of_neither {target : Value} (not_null : target.isNull = false)
    (not_map : target.isMap = false) (calls : List Call) :
    Store.value.run target calls =
      (calls.map fun call => .error (.other (call.refusal target)), target) := by
  induction calls with
  | nil => rfl
  | cons call rest ih =>
    rw [Store.run_cons, call_value_of_neither not_null not_map, ih]
    rfl

end Store

/-- A store, in a state, holds the given entries. -/
inductive Holds : {σ : Type} → Store σ → σ → List (String × Value) → Prop
  | entries (held : List (String × Value)) : Holds .entries held held
  | table {table : Std.HashMap String Value} {held : List (String × Value)}
      (finds : ∀ property : String, table[property]? = Entries.get? held property) :
      Holds .table table held
  | map (held : List (String × Value)) : Holds .value (.map held) held
  /-- The absent reference is as good as a map without entries. -/
  | null : Holds .value .null []
  | functions {σ : Type} {store : Store σ} {state : σ} {held : List (String × Value)} :
      Holds store state held → Holds store.functions state held

/-- What a store that holds the given entries does at each of its four accesses. -/
structure Accesses {σ : Type} (store : Store σ) (state : σ) (held : List (String × Value)) :
    Prop where
  readValue : ∀ property, store.source.readValue property state =
    (.ok ((Entries.get? held property).getD .null), state)
  read : ∀ s property, store.source.read s property state =
    (s.narrow property ((Entries.get? held property).getD .null), state)
  writeValue : ∀ property value, ∃ after,
    store.sink.writeValue property value state = (.ok (), after) ∧
      Holds store after (Entries.insert held property value)
  write : ∀ s property data, ∃ after,
    store.sink.write s property data state = (.ok (), after) ∧
      Holds store after (Entries.insert held property (s.widen data))

/-- A table that takes an entry holds what entries in order hold that take it. -/
theorem holds_insert_table {table : Std.HashMap String Value}
    (finds : ∀ property : String, table[property]? = Entries.get? held property)
    (property : String) (value : Value) :
    Holds .table (table.insert property value) (Entries.insert held property value) := by
  apply Holds.table
  intro other
  rw [Std.HashMap.getElem?_insert, Entries.get?_insert, finds other]
  by_cases same : property = other
  · simp [same]
  · simp [same, Ne.symm same]

theorem Holds.accesses (holds : Holds store state held) : Accesses store state held := by
  induction holds with
  | entries held =>
    exact {
      readValue := fun _ => rfl
      read := fun _ _ => rfl
      writeValue := fun _ _ => ⟨_, rfl, .entries _⟩
      write := fun _ _ _ => ⟨_, rfl, .entries _⟩ }
  | @table table held finds =>
    have reads : ∀ property, (table[property]?).getD .null =
        (Entries.get? held property).getD .null := fun property => by rw [finds]
    exact {
      readValue := fun property => by simp only [Store.table, Source.table, reads]
      read := fun s property => by simp only [Store.table, Source.table, reads]
      writeValue := fun property value => ⟨_, rfl, holds_insert_table finds property value⟩
      write := fun s property data => ⟨_, rfl, holds_insert_table finds property (s.widen data)⟩ }
  | map held =>
    exact {
      readValue := fun _ => rfl
      read := fun _ _ => rfl
      writeValue := fun _ _ => ⟨_, rfl, .map _⟩
      write := fun _ _ _ => ⟨_, rfl, .map _⟩ }
  | null =>
    -- the first write turns the absent reference into a map
    exact {
      readValue := fun _ => rfl
      read := fun _ _ => rfl
      writeValue := fun _ _ => ⟨_, rfl, .map _⟩
      write := fun _ _ _ => ⟨_, rfl, .map _⟩ }
  | @functions _ store state held _ inner =>
    exact {
      readValue := inner.readValue
      read := fun s property => by
        simp only [Store.functions, Source.read_ofReadValue, inner.readValue]
        rfl
      writeValue := fun property value => by
        obtain ⟨after, wrote, holds⟩ := inner.writeValue property value
        exact ⟨after, wrote, holds.functions⟩
      write := fun s property data => by
        obtain ⟨after, wrote, holds⟩ := inner.writeValue property (s.widen data)
        exact ⟨after, wrote, holds.functions⟩ }

/-- One call is answered as the entries answer it, and leaves a state that holds what they
hold afterwards. -/
theorem Holds.call (holds : Holds store state held) (call : Call) :
    (store.call state call).1 = (Store.entries.call held call).1 ∧
      Holds store (store.call state call).2 (Store.entries.call held call).2 := by
  have accesses := holds.accesses
  cases call with
  | readValue property =>
    rw [Store.call, accesses.readValue]
    exact ⟨rfl, holds⟩
  | read s property =>
    rw [Store.call, accesses.read]
    exact ⟨rfl, holds⟩
  | writeValue property value =>
    obtain ⟨after, wrote, still⟩ := accesses.writeValue property value
    rw [Store.call, wrote]
    exact ⟨rfl, still⟩
  | write s property data =>
    obtain ⟨after, wrote, still⟩ := accesses.write s property data
    rw [Store.call, wrote]
    exact ⟨rfl, still⟩

/-- So is a sequence of calls. -/
theorem Holds.run (holds : Holds store state held) (calls : List Call) :
    (store.run state calls).1 = (Store.entries.run held calls).1 ∧
      Holds store (store.run state calls).2 (Store.entries.run held calls).2 := by
  induction calls generalizing state held with
  | nil => exact ⟨rfl, holds⟩
  | cons call rest ih =>
    obtain ⟨answered, still⟩ := holds.call call
    obtain ⟨answers, last⟩ := ih still
    rw [Store.run_cons, Store.run_cons, answered, answers]
    exact ⟨rfl, last⟩

/-- The entries of a table are those that reads find in it. -/
theorem tableEntries_eq {table : Std.HashMap String Value} (sorted : Entries.Sorted held)
    (finds : ∀ property : String, table[property]? = Entries.get? held property) :
    tableEntries table = held := by
  have distinct : table.toList.Pairwise fun a b => a.1 ≠ b.1 :=
    Std.HashMap.distinct_keys_toList.imp fun {a b} differs same => by simp [same] at differs
  refine (Entries.sorted_ofList table.toList).ext sorted fun property => ?_
  rw [← finds property]
  cases found : table[property]? with
  | some value =>
    exact Entries.get?_ofList_of_mem distinct (Std.HashMap.mem_toList_iff_getElem?_eq_some.2 found)
  | none =>
    refine Entries.get?_ofList_of_not_mem fun entry member same => ?_
    rw [same, Std.HashMap.mem_toList_iff_getElem?_eq_some.1 member] at found
    cases found

theorem Holds.contents (holds : Holds store state held) (sorted : Entries.Sorted held) :
    store.contents state = held := by
  induction holds with
  | entries held => rfl
  | table finds => exact tableEntries_eq sorted finds
  | map held => rfl
  | null => rfl
  | functions _ inner => exact inner sorted

theorem Holds.writesWell (holds : Holds store state held) : store.WritesWell state := by
  intro call property value writes
  obtain ⟨answered, still⟩ := holds.call call
  rw [Store.call_entries_of_written writes] at answered still
  refine ⟨_, Prod.ext answered rfl, ?_, fun read reads differs => ?_⟩
  · rw [(still.call (.readValue property)).1]
    show Except.ok (Reply.value ((Entries.get? (Entries.insert held property value)
      property).getD .null)) = _
    rw [Entries.get?_insert_self]
    rfl
  · rw [(still.call read).1, (holds.call read).1]
    exact Store.call_entries_congr reads (Entries.get?_insert_of_ne held value differs)

/-- Two stores that hold the same entries give the same answers to every sequence of
calls and end with the same entries; after every sequence a write is read back and
disturbs no other property.  A value that can hold no entries refuses each call and stays
as it is. -/
theorem map_stores_agree {τ : Type} {other : Store τ} {state' : τ}
    (holds : Holds store state held) (holds' : Holds other state' held)
    (sorted : Entries.Sorted held) (calls : List Call) :
    (store.run state calls).1 = (other.run state' calls).1 ∧
      store.contents (store.run state calls).2 = other.contents (other.run state' calls).2 ∧
      store.WritesWell (store.run state calls).2 ∧
      ∀ target : Value, target.isNull = false → target.isMap = false →
        Store.value.run target calls =
          (calls.map fun call => .error (.other (call.refusal target)), target) := by
  obtain ⟨answers, last⟩ := holds.run calls
  obtain ⟨answers', last'⟩ := holds'.run calls
  have sorted_last := Store.sorted_run_entries sorted calls
  refine ⟨answers.trans answers'.symm, ?_, last.writesWell, fun target not_null not_map => ?_⟩
  · exact (last.contents sorted_last).trans (last'.contents sorted_last).symm
  · exact Store.run_value_of_neither not_null not_map calls

/-- The absent reference, which the write in the middle promotes to a map, and functions
over an empty table: reads of an absent property and of one of the wrong kind fail alike. -/
theorem map_stores_agree_null :
    let calls := [Call.read .i32 "n", .write .string "n" "seven", .read .i32 "n", .readValue "n"]
    Holds .value .null [] ∧ Holds (Store.functions .table) ∅ [] ∧
      ((Store.functions .table).run ∅ calls).1 =
        [.error (.conversion "n" "i32" "null"), .ok .written,
          .error (.conversion "n" "i32" "string"), .ok (.value (.string "seven"))] ∧
      (Store.functions .table).contents ((Store.functions .table).run ∅ calls).2 =
        [("n", .string "seven")] ∧
      (Store.functions .table).WritesWell ((Store.functions .table).run ∅ calls).2 ∧
      Store.value.run (.integer 7) calls =
        (calls.map fun call => .error (.other (call.refusal (.integer 7))), .integer 7) := by
  intro calls
  have holds : Holds (Store.functions .table) (∅ : Std.HashMap String Value) [] :=
    (Holds.table fun _ => Std.HashMap.getElem?_empty).functions
  obtain ⟨answers, contents, writesWell, others⟩ :=
    map_stores_agree holds Holds.null List.Pairwise.nil calls
  exact ⟨.null, holds, answers, contents, writesWell, others (.integer 7) rfl rfl⟩

end PropertyBinding
