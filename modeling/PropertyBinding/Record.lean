import PropertyBinding.Cell
import PropertyBinding.Descriptor

/-! # Records: instances made of cells

A record has a cell for every type and name, of which only those that were written
are kept.  It also remembers the constructor that made it.  `Record.member` is
a member over one cell; reading a cell gives what was written to it last, and writing
one leaves all others as they are.
-/
namespace PropertyBinding

/-- An instance made of cells. -/
structure Record where
  /-- The cells that were written, the latest one first. -/
  cells : List Cell := []
  /-- The place of the constructor that made the record, and its arguments. -/
  origin : Option (Nat × Arguments) := none

namespace Record

/-- What a cell holds. -/
def get (record : Record) (type : CellType) (name : String) : type.Carrier :=
  (record.cells.findSome? fun cell => cell.content? type name).getD type.initial

/-- Write a cell. -/
def set (record : Record) (type : CellType) (name : String) (content : type.Carrier) : Record :=
  { record with
    cells :=
      ⟨name, type, content⟩ ::
        record.cells.filter fun cell => decide ¬(cell.type = type ∧ cell.name = name) }

@[simp] theorem get_set_self (record : Record) (type : CellType) (name : String)
    (content : type.Carrier) : (record.set type name content).get type name = content := by
  simp [get, set, Cell.content?]

theorem content?_eq_none {cell : Cell} {type : CellType} {name : String}
    (differs : ¬(cell.type = type ∧ cell.name = name)) : cell.content? type name = none := by
  unfold Cell.content?
  split
  · split
    · exact absurd ⟨‹_›, ‹_›⟩ differs
    · rfl
  · rfl

theorem get_set_of_ne (record : Record) {type other : CellType} {name otherName : String}
    (content : type.Carrier) (differs : ¬(type = other ∧ name = otherName)) :
    (record.set type name content).get other otherName = record.get other otherName := by
  have rest : ∀ cells : List Cell,
      (cells.filter fun cell => decide ¬(cell.type = type ∧ cell.name = name)).findSome?
        (fun cell => cell.content? other otherName) =
      cells.findSome? fun cell => cell.content? other otherName := by
    intro cells
    induction cells with
    | nil => rfl
    | cons cell cells ih =>
      by_cases written : cell.type = type ∧ cell.name = name
      · have skipped : cell.content? other otherName = none := by
          apply content?_eq_none
          rintro ⟨sameType, sameName⟩
          exact differs ⟨written.1 ▸ sameType, written.2 ▸ sameName⟩
        rw [List.filter_cons_of_neg (by simp [written]), List.findSome?_cons, skipped, ih]
      · rw [List.filter_cons_of_pos (by exact decide_eq_true written), List.findSome?_cons,
          List.findSome?_cons, ih]
  have first : Cell.content? ⟨name, type, content⟩ other otherName = none :=
    content?_eq_none differs
  simp only [get, set, List.findSome?_cons, first, rest]

/-- The handle that reads a cell. -/
def reader (typeName name : String) :
    (type : CellType) → ReadHandle Record (type.valueType typeName)
  | .scalar s => fun record => record.get (.scalar s) name
  | .value => fun record => record.get .value name
  | .encoded type => type.codec.reader fun record => record.get (.encoded type) name

/-- The handle that writes a cell. -/
def writer (typeName name : String) :
    (type : CellType) → WriteHandle Record (type.valueType typeName)
  | .scalar s => fun record content => record.set (.scalar s) name content
  | .value => fun record content => record.set .value name content
  | .encoded type => type.codec.writer fun record content => record.set (.encoded type) name content

/-- The handles of a cell, those that are wanted. -/
def slot (type : CellType) (typeName name : String) (read write : Bool) : Slot Record where
  type := type.valueType typeName
  read := if read then some (reader typeName name type) else none
  write := if write then some (writer typeName name type) else none

/-- A member over a cell. -/
def member (kind : MemberKind) (declared : String) (type : CellType) (typeName name : String) :
    Member Record :=
  Member.ofKind kind declared (type.valueType typeName) (reader typeName name type)
    (writer typeName name type)

/-- Conditions on the content of a cell: the error of content that may not be read, or
not be written. -/
structure Guard where
  reading : Value → Option Error
  writing : Value → Option Error

/-- The handles of a guarded cell of values, those that are wanted. -/
def guardedSlot (guard : Guard) (typeName name : String) (read write : Bool) : Slot Record where
  type := .object typeName
  read :=
    if read then
      some fun record =>
        let content := record.get .value name
        match guard.reading content with
        | some error => .error error
        | none => .ok content
    else none
  write :=
    if write then
      some fun record content =>
        match guard.writing content with
        | some error => (.error error, record)
        | none => (.ok (), record.set .value name content)
    else none

end Record
end PropertyBinding
