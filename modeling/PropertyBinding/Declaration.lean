import PropertyBinding.Record

/-! # Declarations: record types given by their fields

A record type can be declared by the list of its fields.  Each field becomes a member
over a cell of its own name, unless it is left out, and further members may
follow.  If the type is constructible, a constructor without parameters makes a record
in which nothing is written.
-/
namespace PropertyBinding

/-- A field of a record type. -/
structure FieldDeclaration where
  name : String
  type : CellType
  /-- The name of a type that travels encoded. -/
  typeName : String := ""
  isPublic : Bool := true
  attributes : List (String × String) := []
  /-- Whether the field is a member at all. -/
  isMember : Bool := true

/-- A record type. -/
structure Declaration where
  typePath : String
  typeName : String
  fields : List FieldDeclaration
  constructible : Bool := true
  /-- Members behind those of the fields. -/
  accessors : List (Member Record) := []

namespace FieldDeclaration

/-- The member of a field. -/
def member (field : FieldDeclaration) : Member Record :=
  let plain := Record.member .field field.name field.type field.typeName field.name
  { plain with
    info.isPublic := field.isPublic
    info.attributes := field.attributes }

end FieldDeclaration

namespace Declaration

/-- The descriptor of a declared type. -/
def descriptor (declaration : Declaration) : Descriptor Record where
  typePath := declaration.typePath
  typeName := declaration.typeName
  members :=
    (declaration.fields.filter FieldDeclaration.isMember).map FieldDeclaration.member ++
      declaration.accessors
  constructors := if declaration.constructible then [.ofDefault {}] else []

end Declaration
end PropertyBinding
