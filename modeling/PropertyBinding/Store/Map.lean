import PropertyBinding.Store
import Std.Data.HashMap

/-! # Maps and values as stores

Three stores that hold a value for each property: entries in the order of their
keys, a hash table, and a single value that is a map.  Absent properties read as
the absent reference.  The typed reads look at the stored value in place.
-/
namespace PropertyBinding

namespace Source

/-- Entries in the order of their keys. -/
def entries : Source (List (String × Value)) where
  readValue property held := (.ok ((Entries.get? held property).getD .null), held)
  read s property held := (s.narrow property ((Entries.get? held property).getD .null), held)

/-- Entries that tell absent properties apart. -/
def strictEntries : Source (List (String × Value)) where
  readValue property held :=
    match Entries.get? held property with
    | some value => (.ok value, held)
    | none => (.error (.missing property), held)

/-- A hash table. -/
def table : Source (Std.HashMap String Value) where
  readValue property held := (.ok (held[property]?.getD .null), held)
  read s property held := (s.narrow property (held[property]?.getD .null), held)

/-- A single value: a map, or the absent reference, of which every property is absent. -/
def value : Source Value where
  readValue property held :=
    match held with
    | .map fields => (.ok ((Entries.get? fields property).getD .null), held)
    | .null => (.ok .null, held)
    | other =>
      (.error (.other s!"cannot read property '{property}' from a {other.kind} value"), held)

end Source

namespace Sink

/-- Entries in the order of their keys. -/
def entries : Sink (List (String × Value)) where
  writeValue property value held := (.ok (), Entries.insert held property value)

/-- A hash table. -/
def table : Sink (Std.HashMap String Value) where
  writeValue property value held := (.ok (), held.insert property value)

/-- A single value: a map, or the absent reference, which becomes a map. -/
def value : Sink Value where
  writeValue property value held :=
    match held.insert? property value with
    | some changed => (.ok (), changed)
    | none =>
      (.error (.other s!"cannot write property '{property}' into a {held.kind} value"), held)

end Sink

/-- The entries of a hash table in the order of their keys. -/
def tableEntries (table : Std.HashMap String Value) : List (String × Value) :=
  Entries.ofList table.toList

end PropertyBinding
